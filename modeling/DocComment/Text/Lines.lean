/-!
# Lines of a text

Carriage return and line feed, a lone carriage return and a lone line feed each end a line.
-/

namespace DocComment.Text

/-- A text in which every carriage return, with the line feed after it if there is one, has become
a line feed. -/
def toLineFeeds : List Char → List Char
  | [] => []
  | '\r' :: '\n' :: rest => '\n' :: toLineFeeds rest
  | c :: rest => (if c = '\r' then '\n' else c) :: toLineFeeds rest

/-- The pieces of a text between its occurrences of a separator; there is one more piece than there
are separators. -/
def splitOn (sep : Char) : List Char → List (List Char)
  | [] => [[]]
  | c :: rest =>
    match splitOn sep rest with
    | [] => [[c]]
    | piece :: pieces => if c = sep then [] :: piece :: pieces else (c :: piece) :: pieces

/-- The lines of a text. -/
def lines (s : List Char) : List (List Char) :=
  splitOn '\n' (toLineFeeds s)

/-- Lines joined by line feeds. -/
def unlines (ls : List (List Char)) : List Char :=
  List.intercalate ['\n'] ls

end DocComment.Text
