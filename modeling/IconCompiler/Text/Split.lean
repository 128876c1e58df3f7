/-! # Cutting texts

    Cutting a text at separators, and filling it up to a width. -/

namespace IconCompiler.Text

/-- Whether `c` is a slash of either kind. -/
def isSlash (c : Char) : Bool :=
  c == '/' || c == '\\'

theorem length_dropWhile_le (p : Char → Bool) (cs : List Char) :
    (cs.dropWhile p).length ≤ cs.length :=
  (List.dropWhile_sublist p).length_le

/-- The stretches between the characters satisfying `p`; there is one more of
    them than there are such characters. -/
def splitAtAll (p : Char → Bool) : List Char → List (List Char)
  | [] => [[]]
  | c :: rest =>
    if p c then [] :: splitAtAll p rest
    else
      match splitAtAll p rest with
      | [] => [[c]]
      | piece :: pieces => (c :: piece) :: pieces

/-- The stretches between double colons, these being found from the left. -/
def splitAtColons : List Char → List (List Char)
  | [] => [[]]
  | ':' :: ':' :: rest => [] :: splitAtColons rest
  | c :: rest =>
    match splitAtColons rest with
    | [] => [[c]]
    | piece :: pieces => (c :: piece) :: pieces

/-- What precedes the first double colon, or the whole text without one. -/
def beforeColons : List Char → List Char
  | [] => []
  | ':' :: ':' :: _ => []
  | c :: rest => c :: beforeColons rest

/-- What follows the last double colon, or the whole text without one. -/
def afterColons (cs : List Char) : List Char :=
  (beforeColons cs.reverse).reverse

/-- Whether a text holds a double colon. -/
def hasColons : List Char → Bool
  | [] => false
  | ':' :: ':' :: _ => true
  | _ :: rest => hasColons rest

/-- What follows the last character satisfying `p`, or the whole text. -/
def afterLast (p : Char → Bool) (cs : List Char) : List Char :=
  (cs.reverse.takeWhile (fun c => !p c)).reverse

/-- A text with spaces behind it, up to `width` characters. -/
def padRight (width : Nat) (s : String) : String :=
  s ++ String.ofList (List.replicate (width - s.length) ' ')

/-- A text with spaces in front of it, up to `width` characters. -/
def padLeft (width : Nat) (s : String) : String :=
  String.ofList (List.replicate (width - s.length) ' ') ++ s

/-- Texts joined by a separator. -/
def joinWith (separator : String) (texts : List String) : String :=
  separator.intercalate texts

end IconCompiler.Text
