set_option autoImplicit false

namespace BearerIdentity.Split

def atFirst (mark : Char) : List Char → Option (List Char × List Char)
  | [] => none
  | c :: rest =>
    if c = mark then some ([], rest)
    else (atFirst mark rest).map fun (before, after) => (c :: before, after)

/-- The pieces between the characters of a class, one more than there are such characters. -/
def onEvery (isMark : Char → Bool) : List Char → List (List Char)
  | [] => [[]]
  | c :: rest =>
    if isMark c then [] :: onEvery isMark rest
    else
      match onEvery isMark rest with
      | [] => [[c]]
      | piece :: pieces => (c :: piece) :: pieces

def afterPrefix? : (head text : List Char) → Option (List Char)
  | [], text => some text
  | _ :: _, [] => none
  | h :: head, c :: text => if h = c then afterPrefix? head text else none

def beforeSuffix? (tail text : List Char) : Option (List Char) :=
  (afterPrefix? tail.reverse text.reverse).map List.reverse

end BearerIdentity.Split
