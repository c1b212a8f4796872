/-!
# Parts of a text

A text that is divided by a separator, and the text that its parts make up with the separator
between them.
-/

namespace WebhookSync.Text

/-- The parts of a text between separators: one more than there are separators. -/
def splitOn (separator : Char) : List Char → List (List Char)
  | [] => [[]]
  | c :: rest =>
      if c = separator then [] :: splitOn separator rest
      else
        match splitOn separator rest with
        | [] => [[c]]
        | first :: others => (c :: first) :: others

/-- Texts with a separator between them. -/
def joinWith (separator : Char) : List (List Char) → List Char
  | [] => []
  | [part] => part
  | part :: others => part ++ separator :: joinWith separator others

end WebhookSync.Text
