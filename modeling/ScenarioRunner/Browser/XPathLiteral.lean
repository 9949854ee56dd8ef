/-!
String literals of XPath 1.0. A literal ends at the next quote of its own kind and knows no escapes,
so a text with both kinds of quote is put together from pieces by `concat`.
-/

namespace ScenarioRunner

/-- The pieces between the marks, one more than there are marks. -/
def splitAtEvery (mark : Char) : List Char → List (List Char)
  | [] => [[]]
  | c :: rest =>
    if c = mark then [] :: splitAtEvery mark rest
    else
      match splitAtEvery mark rest with
      | [] => [[c]]
      | piece :: pieces => (c :: piece) :: pieces

/-- The text between two quotes of one kind. -/
def quoteWith (mark : Char) (text : List Char) : List Char := mark :: text ++ [mark]

/-- Single quotes are preferred; a text with both kinds is cut at its single quotes. -/
def xpathLiteralCharacters (text : List Char) : List Char :=
  if !text.contains '\'' then quoteWith '\'' text
  else if !text.contains '"' then quoteWith '"' text
  else
    let separator := ", \"'\", ".toList
    "concat(".toList ++
      separator.intercalate ((splitAtEvery '\'' text).map (quoteWith '\'')) ++ [')']

/-- An XPath expression whose value is the text. -/
def xpathLiteral (text : String) : String :=
  String.ofList (xpathLiteralCharacters text.toList)

end ScenarioRunner
