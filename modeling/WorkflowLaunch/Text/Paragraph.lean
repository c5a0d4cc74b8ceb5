import WorkflowLaunch.Text.Blank

set_option autoImplicit false

/-!
The first paragraph of a text: what stands before its first blank line.
-/

namespace WorkflowLaunch.Text

/-- The characters before the first two line breaks in a row. -/
def beforeBlankLine : List Char → List Char
  | [] => []
  | '\n' :: '\n' :: _ => []
  | c :: rest => c :: beforeBlankLine rest

def firstParagraph (text : String) : String :=
  String.ofList (trimEnd (beforeBlankLine text.toList))

end WorkflowLaunch.Text
