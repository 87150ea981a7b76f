import Scpi.Text.Blank

set_option autoImplicit false

namespace Scpi

structure Header where
  keywords : List String
deriving DecidableEq, Repr

namespace Header

def root : Header := ⟨[]⟩

instance : Inhabited Header := ⟨root⟩

def extend (header : Header) (keyword : String) : Header := ⟨header.keywords ++ [keyword]⟩

-- The root is its own parent.
def parent (header : Header) : Header := ⟨header.keywords.dropLast⟩

def length (header : Header) : Nat := header.keywords.length

def text (header : Header) : String := ":".intercalate header.keywords

def closeKeyword (word : List Char) : List String :=
  match word.dropWhile Text.isBlank with
  | [] => []
  | last :: before => [String.ofList (last :: before).reverse]

-- Reads keywords in one pass, where `word` is the current one, latest character first. Blanks in front of
-- a keyword are passed over, and a colon ends it.
def keywordsFrom (word : List Char) : List Char → List String
  | [] => closeKeyword word
  | c :: rest =>
      if c = ':' then closeKeyword word ++ keywordsFrom [] rest
      else if word.isEmpty && Text.isBlank c then keywordsFrom [] rest
      else keywordsFrom (c :: word) rest

def ofText (text : String) : Header := ⟨keywordsFrom [] text.toList⟩

end Header

end Scpi
