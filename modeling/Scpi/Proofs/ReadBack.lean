import Scpi.Proofs.HeaderText

set_option autoImplicit false

namespace Scpi

theorem Text.stripped_end (outer : Char → Bool) (characters ending : List Char)
    (drops : ∀ c ∈ ending, outer c = true) :
    stripped outer (characters ++ ending) = stripped outer characters := by
  have dropped : ending.dropWhile outer = [] := List.dropWhile_eq_nil_iff.mpr drops
  rw [stripped, stripped, List.dropWhile_append]
  split
  · rename_i empty
    rw [dropped, List.isEmpty_iff.mp empty]
  · rw [List.reverse_append, List.dropWhile_append_of_pos fun c member => drops c (List.mem_reverse.mp member)]

namespace Header

-- What comes after a separator in front of the characters, if there is one. A separator is a colon with all
-- the blanks on either side of it.
def separated? (characters : List Char) : Option (List Char) :=
  match characters.dropWhile Text.isBlank with
  | [] => none
  | c :: rest => if c = ':' then some (rest.dropWhile Text.isBlank) else none

theorem separated_some (characters following : List Char) (separates : separated? characters = some following) :
    ∃ blanks rest, characters = blanks ++ ':' :: rest ∧ (∀ c ∈ blanks, Text.isBlank c = true) ∧
      following = rest.dropWhile Text.isBlank := by
  rw [separated?] at separates
  split at separates
  · cases separates
  · rename_i c rest left
    split at separates
    · rename_i colon
      refine ⟨characters.takeWhile Text.isBlank, rest, ?_, List.all_eq_true.mp List.all_takeWhile,
        (Option.some.inj separates).symm⟩
      rw [← colon, ← left, List.takeWhile_append_dropWhile]
    · cases separates

theorem separated_colon (rest : List Char) : separated? (':' :: rest) = some (rest.dropWhile Text.isBlank) := rfl

theorem separated_shorter (characters following : List Char) (separates : separated? characters = some following) :
    following.length < characters.length := by
  obtain ⟨blanks, rest, rfl, _, rfl⟩ := separated_some characters following separates
  have dropped := (List.dropWhile_sublist (l := rest) Text.isBlank).length_le
  rw [List.length_append, List.length_cons]
  omega

def separatedFrom (piece : List Char) : List Char → List (List Char)
  | [] => [piece.reverse]
  | c :: rest =>
      match _separates : separated? (c :: rest) with
      | some following => piece.reverse :: separatedFrom [] following
      | none => separatedFrom (c :: piece) rest
termination_by characters => characters.length
decreasing_by
  · exact separated_shorter (c :: rest) following _separates
  · exact Nat.lt_succ_self rest.length

theorem blank_no_colon (c : Char) (blank : Text.isBlank c = true) : (c == ':') = false := by
  apply beq_false_of_ne
  rintro rfl
  cases blank

theorem trimmed_pieces_dropped (characters : List Char) :
    trimmedPieces ((characters.dropWhile Text.isBlank).splitOnP (· == ':')) =
      trimmedPieces (characters.splitOnP (· == ':')) := by
  induction characters with
  | nil => rfl
  | cons c rest ih =>
      by_cases blank : Text.isBlank c = true
      · rw [List.dropWhile_cons_of_pos blank, ih, List.splitOnP_cons_eq_if_modifyHead, blank_no_colon c blank]
        exact (trimmed_pieces_blank c _ blank).symm
      · rw [List.dropWhile_cons_of_neg blank]

theorem trimmed_piece_end (piece blanks : List Char) (blank : ∀ c ∈ blanks, Text.isBlank c = true) :
    trimmedPieces [piece ++ blanks] = trimmedPieces [piece] := by
  simp only [trimmedPieces, List.map_singleton, Text.trim, String.toList_ofList,
    Text.stripped_end Text.isBlank piece blanks blank]

-- The blanks that a separator takes with it are stripped from the pieces on its sides anyway.
theorem trimmed_pieces_separated (piece characters : List Char) :
    trimmedPieces (separatedFrom piece characters) =
      trimmedPieces (characters.splitOnPPrepend (· == ':') piece) := by
  fun_induction separatedFrom piece characters with
  | case1 piece => rfl
  | case2 piece c rest following separates ih =>
      obtain ⟨blanks, others, split, blank, rfl⟩ := separated_some (c :: rest) following separates
      rw [← List.splitOnP_eq_splitOnPPrepend, trimmed_pieces_dropped] at ih
      rw [split, List.splitOnPPrepend_eq_modifyHead, List.splitOnP_append_cons_of_forall_mem
        (fun c member => blank_no_colon c (blank c member)) ':' rfl, List.modifyHead_cons, trimmed_pieces_cons, ih,
        trimmed_pieces_cons (piece.reverse ++ blanks), trimmed_piece_end piece.reverse blanks blank]
  | case3 piece c rest unseparated ih =>
      have noColon : (c == ':') = false := by
        apply beq_false_of_ne
        rintro rfl
        rw [separated_colon] at unseparated
        cases unseparated
      rw [ih, List.splitOnPPrepend_cons_neg (p := (· == ':')) noColon]

theorem of_text_separated (text : String) :
    (ofText text).keywords = trimmedPieces (separatedFrom [] text.toList) := by
  rw [of_text_pieces, piecesOf, List.splitOnP_eq_splitOnPPrepend, trimmed_pieces_separated]

theorem trimmed_pieces_append (first second : List (List Char)) :
    trimmedPieces (first ++ second) = trimmedPieces first ++ trimmedPieces second := by
  rw [trimmedPieces, List.map_append, List.filter_append]
  rfl

theorem of_text_joined (first second : String) :
    (ofText (first ++ ":" ++ second)).keywords = (ofText first).keywords ++ (ofText second).keywords := by
  have characters : (first ++ ":" ++ second).toList = first.toList ++ ':' :: second.toList := by
    rw [String.toList_append, String.toList_append, List.append_assoc]
    rfl
  rw [of_text_pieces, of_text_pieces, of_text_pieces, piecesOf, characters,
    List.splitOnP_append_cons first.toList second.toList rfl, trimmed_pieces_append]
  rfl

theorem of_text_text_iff (header : Header) :
    ofText header.text = header ↔ ∀ keyword ∈ header.keywords, Tidy keyword := by
  constructor
  · intro same
    have tidy := of_text_tidy header.text
    rwa [same] at tidy
  · exact of_text_text header

theorem texts_read_back :
    (∀ text, (ofText text).keywords =
        ((text.toList.splitOn ':').map fun piece => Text.trim (String.ofList piece)).filter (· ≠ "") ∧
      (ofText text).keywords =
        ((separatedFrom [] text.toList).map fun piece => Text.trim (String.ofList piece)).filter (· ≠ "")) ∧
    (∀ first second, (ofText (first ++ ":" ++ second)).keywords =
      (ofText first).keywords ++ (ofText second).keywords) ∧
    (∀ text, ofText (ofText text).text = ofText text) ∧
    (∀ header, ofText header.text = header ↔ ∀ keyword ∈ header.keywords, Tidy keyword) := by
  refine ⟨?_, of_text_joined, ?_, of_text_text_iff⟩
  · intro text
    refine ⟨?_, of_text_separated text⟩
    rw [List.splitOn_eq_splitOnP]
    exact of_text_pieces text
  · intro text
    exact of_text_text (ofText text) (of_text_tidy text)

-- Blanks of other scripts, runs of colons, and a blank within a keyword.
example : (Header.ofText " :MEAS\u2003 :\t: VOLT age :: ").keywords = ["MEAS", "VOLT age"] := by decide +kernel

end Header

end Scpi
