/-!
# Blank characters and words

Blank is the property White_Space.  A text falls into words, the maximal runs of characters
that are not blank.
-/

namespace ServiceStubs.Text

/-- The property White_Space: five ASCII controls, the space, and the blanks beyond ASCII. -/
def isBlank (c : Char) : Bool :=
  let n := c.toNat
  (9 ≤ n && n ≤ 13) || n == 0x20 || n == 0x85 || n == 0xA0 || n == 0x1680 ||
    (0x2000 ≤ n && n ≤ 0x200A) || n == 0x2028 || n == 0x2029 || n == 0x202F || n == 0x205F ||
    n == 0x3000

/-- The two control blocks, C0 with DEL and C1. -/
def isControl (c : Char) : Bool :=
  c.toNat < 0x20 || (0x7F ≤ c.toNat && c.toNat ≤ 0x9F)

/-- The maximal runs of characters that are not blank, in order. -/
def words : List Char → List (List Char)
  | [] => []
  | c :: rest =>
    if isBlank c then words rest
    else match rest, words rest with
      | d :: _, w :: ws => if isBlank d then [c] :: w :: ws else (c :: w) :: ws
      | _, ws => [c] :: ws

/-- Whether nothing is left of a text once blanks are trimmed off. -/
def isBlankText (s : String) : Bool :=
  s.toList.all isBlank

end ServiceStubs.Text
