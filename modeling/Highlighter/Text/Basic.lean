/-!
# Texts and their lines

A text is the list of its characters. Its lines are what newlines separate, so a text always
has at least one line, and no line contains a newline.
-/

namespace Highlighter

/-- The text of a buffer, as its characters. -/
abbrev Text := List Char

namespace Text

/-- The lines of a text, without the newlines that separate them. -/
def lines : Text → List Text
  | [] => [[]]
  | c :: rest =>
    if c = '\n' then [] :: lines rest
    else
      match lines rest with
      | [] => [[c]]
      | line :: others => (c :: line) :: others

/-- The text whose lines are given: a newline stands between each two of them. -/
def ofLines : List Text → Text
  | [] => []
  | [line] => line
  | line :: others => line ++ '\n' :: ofLines others

end Text

end Highlighter
