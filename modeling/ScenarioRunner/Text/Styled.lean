/-!
Text with terminal styles. What is printed is a list of spans; whether the styles are shown is
decided only when the spans are rendered.
-/

namespace ScenarioRunner.Text

/-- The colours a span may take. -/
inductive Colour where
  | red
  | green
  | blue
  | cyan
  | white
deriving DecidableEq, Repr

/-- A style without colour, bold or dimmed face leaves the text as it is. -/
structure Style where
  bold : Bool := false
  dimmed : Bool := false
  colour : Option Colour := none
deriving DecidableEq, Repr

/-- A span is a text in one style. -/
structure Span where
  text : String
  style : Style := {}
deriving DecidableEq, Repr

/-- Styled text is a row of spans. -/
abbrev Styled := List Span

/-- The terminal's code of a foreground colour. -/
def Colour.code : Colour → String
  | .red => "31"
  | .green => "32"
  | .blue => "34"
  | .cyan => "36"
  | .white => "37"

/-- The terminal's codes of a style: the faces first and the colour last. -/
def Style.codes (style : Style) : List String :=
  (if style.bold then ["1"] else []) ++ (if style.dimmed then ["2"] else []) ++
    (style.colour.map Colour.code).toList

/-- A plain span shows its text as it is. -/
def plain (text : String) : Span := ⟨text, {}⟩

def dimmed (text : String) : Span := ⟨text, { dimmed := true }⟩

def coloured (colour : Colour) (text : String) : Span := ⟨text, { colour := some colour }⟩

def boldly (colour : Colour) (text : String) : Span :=
  ⟨text, { bold := true, colour := some colour }⟩

/-- The sequence that ends every style. -/
def resetSequence : List Char := ['\x1b', '[', '0', 'm']

/-- The sequence that starts a style. -/
def Style.opening (style : Style) : List Char :=
  ['\x1b', '['] ++ (String.intercalate ";" style.codes).toList ++ ['m']

/-- A reset inside the text is followed by the style again, so that the rest keeps it. -/
def reopenAfterReset (opening : List Char) : List Char → List Char
  | '\x1b' :: '[' :: '0' :: 'm' :: rest =>
    resetSequence ++ opening ++ reopenAfterReset opening rest
  | c :: rest => c :: reopenAfterReset opening rest
  | [] => []

/-- A span with a style is wrapped in its codes when styles are shown. -/
def Span.render (stylesShown : Bool) (span : Span) : String :=
  if stylesShown && !span.style.codes.isEmpty then
    let opening := span.style.opening
    String.ofList (opening ++ reopenAfterReset opening span.text.toList ++ resetSequence)
  else
    span.text

/-- The text that a terminal receives. -/
def Styled.render (stylesShown : Bool) (styled : Styled) : String :=
  String.join (styled.map (·.render stylesShown))

end ScenarioRunner.Text
