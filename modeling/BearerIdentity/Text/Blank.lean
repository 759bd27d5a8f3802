set_option autoImplicit false

namespace BearerIdentity.Blank

/-- The characters with the Unicode property White_Space. -/
def isBlank (c : Char) : Bool :=
  let code := c.toNat
  (9 ≤ code && code ≤ 13) || code == 32 || code == 0x85 || code == 0xa0 || code == 0x1680
    || (0x2000 ≤ code && code ≤ 0x200a) || code == 0x2028 || code == 0x2029 || code == 0x202f
    || code == 0x205f || code == 0x3000

def dropEnd (isDropped : Char → Bool) (text : List Char) : List Char :=
  (text.reverse.dropWhile isDropped).reverse

def trim (text : List Char) : List Char :=
  dropEnd isBlank (text.dropWhile isBlank)

/-- The maximal runs of other characters; `word` is the run read so far. -/
def wordsAfter (word : List Char) : List Char → List (List Char)
  | [] => if word.isEmpty then [] else [word.reverse]
  | c :: rest =>
    if isBlank c then
      if word.isEmpty then wordsAfter [] rest else word.reverse :: wordsAfter [] rest
    else wordsAfter (c :: word) rest

def words (text : List Char) : List (List Char) :=
  wordsAfter [] text

end BearerIdentity.Blank
