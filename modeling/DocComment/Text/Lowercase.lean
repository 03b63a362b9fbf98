import DocComment.Text.LetterCase

/-!
# Lower case

The lower-case form of a text. Two letters are special: the dotted capital I becomes a letter and a
combining dot, and a capital sigma becomes a final sigma at the end of a word.
-/

namespace DocComment.Text

/-- The lower-case form of a character that has one in the table of runs. -/
def lowerCode? (n : Nat) : Option Nat :=
  (lowerRuns.find? fun (first, last, step, _) =>
    first ≤ n && n ≤ last && (n - first) % step = 0).map fun (first, _, _, form) =>
      form + (n - first)

/-- The lower-case form of a character by itself. -/
def lowerChar (c : Char) : List Char :=
  if c = 'İ' then ['i', '\u0307']
  else if c.toNat < 0x80 then [c.toLower]
  else
    match lowerCode? c.toNat with
    | some n => [Char.ofNat n]
    | none => [c]

/-- Whether a word goes on: a letter with case follows, perhaps behind characters that are passed
over. -/
def wordGoesOn (s : List Char) : Bool :=
  (s.dropWhile isCaseIgnorable).head?.any isCased

/-- The lower-case form of the rest of a text; `inWord` says that a letter with case stands before
it, perhaps in front of characters that are passed over. -/
def lowerFrom (inWord : Bool) : List Char → List Char
  | [] => []
  | c :: rest =>
    let form :=
      if c = 'Σ' then [if inWord && !wordGoesOn rest then 'ς' else 'σ'] else lowerChar c
    form ++ lowerFrom (if isCaseIgnorable c then inWord else isCased c) rest

/-- The lower-case form of a text. -/
def lower (s : String) : String :=
  String.ofList (lowerFrom false s.toList)

end DocComment.Text
