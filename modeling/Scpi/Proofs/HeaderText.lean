import Mathlib.Data.List.DropRight
import Scpi.Header

set_option autoImplicit false

namespace Scpi

namespace Text

section

variable (outer : Char → Bool)

theorem stripped_outer (c : Char) (rest : List Char) (drops : outer c = true) :
    stripped outer (c :: rest) = stripped outer rest := by
  rw [stripped, List.dropWhile_cons_of_pos drops, stripped]

theorem drop_none (characters : List Char) (starts : ∀ c ∈ characters.head?, outer c = false) :
    characters.dropWhile outer = characters := by
  cases characters with
  | nil => rfl
  | cons first rest => exact List.dropWhile_cons_of_neg (by simp [starts first rfl])

theorem stripped_begun (characters : List Char) (starts : ∀ c ∈ characters.head?, outer c = false) :
    stripped outer characters = (characters.reverse.dropWhile outer).reverse := by
  rw [stripped, drop_none outer characters starts]

theorem stripped_self (characters : List Char) (starts : ∀ c ∈ characters.head?, outer c = false)
    (ends : ∀ c ∈ characters.getLast?, outer c = false) : stripped outer characters = characters := by
  rw [← List.head?_reverse] at ends
  rw [stripped_begun outer characters starts, drop_none outer characters.reverse ends, List.reverse_reverse]

theorem stripped_inside (characters : List Char) : stripped outer characters ⊆ characters :=
  fun _ member => List.dropWhile_subset outer ((List.rdropWhile_prefix outer _).subset member)

theorem dropped_starts (characters : List Char) :
    ∀ c ∈ (characters.dropWhile outer).head?, outer c = false := by
  intro c first
  have stopped := List.head?_dropWhile_not outer characters
  rw [Option.mem_def.mp first] at stopped
  exact stopped

theorem stripped_starts (characters : List Char) :
    ∀ c ∈ (stripped outer characters).head?, outer c = false := by
  intro c first
  obtain ⟨dropped, whole⟩ := List.rdropWhile_prefix outer (characters.dropWhile outer)
  apply dropped_starts outer characters c
  rw [← whole, List.head?_append]
  exact Option.or_eq_some_iff.mpr (.inl first)

theorem stripped_ends (characters : List Char) :
    ∀ c ∈ (stripped outer characters).getLast?, outer c = false := by
  intro c last
  rw [stripped, List.getLast?_reverse] at last
  exact dropped_starts outer _ c last

end

end Text

theorem split_inside {α : Type} (cuts : α → Bool) (whole : List α) :
    ∀ piece ∈ whole.splitOnP cuts, ∀ element ∈ piece, element ∈ whole ∧ cuts element = false := by
  induction whole with
  | nil => simp
  | cons head rest ih =>
      have later : ∀ piece ∈ rest.splitOnP cuts, ∀ element ∈ piece,
          element ∈ head :: rest ∧ cuts element = false :=
        fun piece member element inside => ⟨List.mem_cons_of_mem head (ih piece member element inside).1,
          (ih piece member element inside).2⟩
      intro piece member
      rw [List.splitOnP_cons_eq_if_modifyHead] at member
      by_cases cut : cuts head = true
      · rw [if_pos cut] at member
        rcases List.mem_cons.mp member with rfl | other
        · simp
        · exact later piece other
      · rw [if_neg cut] at member
        obtain ⟨first, others, pieces⟩ := List.exists_cons_of_ne_nil (List.splitOnP_ne_nil cuts rest)
        rw [pieces] at later member
        rcases List.mem_cons.mp member with rfl | other
        · exact List.forall_mem_cons.mpr
            ⟨⟨List.mem_cons_self, by simpa using cut⟩, later first List.mem_cons_self⟩
        · exact later piece (List.mem_cons_of_mem first other)

-- A keyword in which a reader finds nothing to cut or to strip.
structure Tidy (keyword : String) : Prop where
  present : keyword ≠ ""
  unbroken : ':' ∉ keyword.toList
  starts : ∀ c ∈ keyword.toList.head?, Text.isBlank c = false
  ends : ∀ c ∈ keyword.toList.getLast?, Text.isBlank c = false

theorem Tidy.trimmed (keyword : String) (tidy : Tidy keyword) : Text.trim keyword = keyword := by
  rw [Text.trim, Text.stripped_self Text.isBlank _ tidy.starts tidy.ends, String.ofList_toList]

theorem trim_tidy (text : String) (present : Text.trim text ≠ "") (unbroken : ':' ∉ text.toList) :
    Tidy (Text.trim text) := by
  constructor
  · exact present
  all_goals rw [Text.trim, String.toList_ofList]
  · exact fun colon => unbroken (Text.stripped_inside _ _ colon)
  · exact Text.stripped_starts Text.isBlank text.toList
  · exact Text.stripped_ends Text.isBlank text.toList

namespace Header

def piecesOf (text : String) : List (List Char) := text.toList.splitOnP (· == ':')

def trimmedPieces (pieces : List (List Char)) : List String :=
  (pieces.map fun piece => Text.trim (String.ofList piece)).filter (· ≠ "")

theorem trimmed_pieces_cons (piece : List Char) (rest : List (List Char)) :
    trimmedPieces (piece :: rest) = trimmedPieces [piece] ++ trimmedPieces rest := by
  rw [trimmedPieces, trimmedPieces, trimmedPieces, List.map_cons, List.map_cons, List.map_nil, ← List.singleton_append,
    List.filter_append]

theorem trimmed_pieces_blank (c : Char) (pieces : List (List Char)) (blank : Text.isBlank c = true) :
    trimmedPieces (pieces.modifyHead (c :: ·)) = trimmedPieces pieces := by
  cases pieces with
  | nil => rfl
  | cons piece rest =>
      have same : Text.trim (String.ofList (c :: piece)) = Text.trim (String.ofList piece) := by
        simp only [Text.trim, String.toList_ofList, Text.stripped_outer Text.isBlank c piece blank]
      simp only [List.modifyHead_cons, trimmedPieces, List.map_cons, same]

theorem close_keyword (word : List Char) (starts : ∀ c ∈ word.getLast?, Text.isBlank c = false) :
    closeKeyword word = trimmedPieces [word.reverse] := by
  have left : Text.trim (String.ofList word.reverse) = String.ofList (word.dropWhile Text.isBlank).reverse := by
    rw [← List.head?_reverse] at starts
    rw [Text.trim, String.toList_ofList, Text.stripped_begun Text.isBlank _ starts, List.reverse_reverse]
  rw [trimmedPieces, List.map_singleton, left, closeKeyword]
  cases word.dropWhile Text.isBlank with
  | nil => rfl
  | cons last before => simp

-- A blank in front of a word can be passed over, since it is stripped from the piece anyway. So the word
-- that is read never begins with one.
theorem keywords_from_pieces (word characters : List Char)
    (starts : ∀ c ∈ word.getLast?, Text.isBlank c = false) :
    keywordsFrom word characters = trimmedPieces (characters.splitOnPPrepend (· == ':') word) := by
  induction characters generalizing word with
  | nil => rw [keywordsFrom, List.splitOnPPrepend_nil, close_keyword word starts]
  | cons c rest ih =>
      have afresh := ih [] (by simp)
      rw [← List.splitOnP_eq_splitOnPPrepend] at afresh
      rw [keywordsFrom]
      by_cases colon : c = ':'
      · rw [if_pos colon, List.splitOnPPrepend_cons_pos (by simpa using colon), trimmed_pieces_cons,
          close_keyword word starts, afresh]
      · rw [if_neg colon, List.splitOnPPrepend_cons_neg (by simpa using colon)]
        by_cases passed : (word.isEmpty && Text.isBlank c) = true
        · obtain ⟨none, blank⟩ := Bool.and_eq_true_iff.mp passed
          rw [if_pos passed, afresh, List.isEmpty_iff.mp none, List.splitOnPPrepend_eq_modifyHead]
          exact (trimmed_pieces_blank c _ blank).symm
        · rw [if_neg passed]
          apply ih
          cases word with
          | nil => simpa using passed
          | cons last before =>
              rw [List.getLast?_cons_cons]
              exact starts

theorem of_text_pieces (text : String) : (ofText text).keywords = trimmedPieces (piecesOf text) := by
  rw [piecesOf, List.splitOnP_eq_splitOnPPrepend]
  exact keywords_from_pieces [] text.toList (by simp)

theorem of_text_tidy (text : String) : ∀ keyword ∈ (ofText text).keywords, Tidy keyword := by
  intro keyword member
  rw [of_text_pieces] at member
  obtain ⟨trimmed, present⟩ := List.mem_filter.mp member
  obtain ⟨piece, cut, rfl⟩ := List.mem_map.mp trimmed
  apply trim_tidy _ (by simpa using present)
  rw [String.toList_ofList]
  intro colon
  simpa using (split_inside _ _ piece cut ':' colon).2

theorem trimmed_pieces_tidy (keywords : List String) (tidy : ∀ keyword ∈ keywords, Tidy keyword) :
    trimmedPieces (keywords.map String.toList) = keywords := by
  induction keywords with
  | nil => rfl
  | cons keyword rest ih =>
      obtain ⟨own, others⟩ := List.forall_mem_cons.mp tidy
      have kept : trimmedPieces [keyword.toList] = [keyword] := by
        simp [trimmedPieces, own.trimmed, own.present]
      rw [List.map_cons, trimmed_pieces_cons, kept, ih others, List.singleton_append]

theorem of_text_text (header : Header) (tidy : ∀ keyword ∈ header.keywords, Tidy keyword) :
    ofText header.text = header := by
  rcases header with ⟨_ | ⟨keyword, others⟩⟩
  · rfl
  · have unbroken : ∀ piece ∈ (keyword :: others).map String.toList, ':' ∉ piece := by
      intro piece member
      obtain ⟨other, present, rfl⟩ := List.mem_map.mp member
      exact (tidy other present).unbroken
    have pieces : piecesOf (text ⟨keyword :: others⟩) = (keyword :: others).map String.toList := by
      rw [piecesOf, text, String.toList_intercalate, ← List.splitOn_eq_splitOnP]
      exact List.splitOn_intercalate ':' unbroken (by simp)
    have read := of_text_pieces (text ⟨keyword :: others⟩)
    rw [pieces, trimmed_pieces_tidy _ tidy] at read
    exact congrArg Header.mk read

end Header

end Scpi
