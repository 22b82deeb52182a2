import LatexTree.Text.CodeSet

/-! Blanks: spaces of all widths and what ends a line. -/
namespace LatexTree

def blank : CodeSet where
  low := [
    (0x9, 0xd), (0x20, 0x20), (0x85, 0x85), (0xa0, 0xa0), (0x1680, 0x1680)]
  basic := [
    (0x2000, 0x200a), (0x2028, 0x2029), (0x202f, 0x202f), (0x205f, 0x205f), (0x3000, 0x3000)]
  high := []

def isBlank (c : Char) : Bool := blank.contains c

def trimmed (text : List Char) : List Char :=
  ((text.dropWhile isBlank).reverse.dropWhile isBlank).reverse

end LatexTree
