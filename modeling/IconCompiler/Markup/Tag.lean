import IconCompiler.Markup.Lexeme
import IconCompiler.Markup.Name

/-! # Tags

    The content of a start tag is a name and the attributes behind it.
    Attributes are read from left to right, up to the first one that is not
    written as it should be. -/

namespace IconCompiler.Markup

open Text

/-- A start tag: its name, and the text of its attributes. -/
structure Tag where
  name : List Char
  rest : List Char
  deriving DecidableEq

/-- An attribute as it is written, with the position of its key in the content
    of the tag. -/
structure RawAttribute where
  position : Nat
  key : List Char
  value : List Char
  deriving DecidableEq

namespace Tag

/-- Split the content of a tag at its first white space. -/
def ofContent (content : List Char) : Tag where
  name := content.takeWhile fun c => !isSpace c
  rest := content.dropWhile fun c => !isSpace c

/-- Whether `c` belongs to a key that has begun. -/
def isKeyChar (c : Char) : Bool :=
  c != '=' && !isSpace c

theorem length_of_cutAt?_of_dropWhile {p : Char → Bool} {quote : Char}
    {cs after value rest : List Char} (hd : cs.dropWhile p = quote :: after)
    (hc : cutAt? [quote] after = some (value, rest)) : rest.length < cs.length := by
  have h₁ := length_dropWhile_le p cs
  have h₂ := length_of_cutAt? hc
  rw [hd, List.length_cons] at h₁
  omega

/-- Read attributes from `cs`, which begins at `position` of the tag's content
    and follows the attributes `seen`.  The answer is what can be read, and the
    fault that ended the reading. -/
def attributesFrom (seen : List RawAttribute) (position : Nat) (cs : List Char) :
    List RawAttribute × Option AttributeFault :=
  match cs with
  | [] => ([], none)
  | c :: rest =>
    if isSpace c then attributesFrom seen (position + 1) rest
    else
      let key := c :: rest.takeWhile isKeyChar
      let behindKey := rest.dropWhile isKeyChar
      let equals := position + byteLength key + (behindKey.takeWhile isSpace).length
      match hequals : behindKey.dropWhile isSpace with
      | '=' :: behindEquals =>
        match seen.find? (·.key == key) with
        | some earlier => ([], some (.repeatedKey position earlier.position))
        | none =>
          let value := equals + 1 + (behindEquals.takeWhile isSpace).length
          match hquote : behindEquals.dropWhile isSpace with
          | [] => ([], some (.missingValue value))
          | quote :: behindQuote =>
            if quote = '"' ∨ quote = '\'' then
              match hcut : cutAt? [quote] behindQuote with
              | none => ([], some (.openQuote (value + 1 + byteLength behindQuote) quote))
              | some (text, after) =>
                have h₁ := length_of_cutAt?_of_dropWhile hquote hcut
                have h₂ := length_dropWhile_le isSpace behindKey
                have h₃ : behindKey.length ≤ rest.length := length_dropWhile_le isKeyChar rest
                have : after.length < rest.length + 1 := by
                  rw [hequals, List.length_cons] at h₂
                  omega
                let found : RawAttribute := ⟨position, key, text⟩
                let (more, fault) :=
                  attributesFrom (seen ++ [found]) (value + 2 + byteLength text) after
                (found :: more, fault)
            else ([], some (.unquotedValue value))
      | _ => ([], some (.missingEquals equals))
termination_by cs.length

/-- The attributes of a tag, and the fault that ended their reading. -/
def attributes (tag : Tag) : List RawAttribute × Option AttributeFault :=
  attributesFrom [] (byteLength tag.name) tag.rest

end Tag

end IconCompiler.Markup
