set_option autoImplicit false

/-!
White space in the sense of the Unicode property White_Space, and trimming.
-/

namespace WorkflowLaunch.Text

def isBlank (c : Char) : Bool :=
  ('\t' ≤ c && c ≤ '\r') || c == ' ' || c == '\u0085' || c == '\u00A0' || c == '\u1680' ||
    ('\u2000' ≤ c && c ≤ '\u200A') || c == '\u2028' || c == '\u2029' || c == '\u202F' ||
    c == '\u205F' || c == '\u3000'

def trimStart (text : List Char) : List Char := text.dropWhile isBlank

def trimEnd (text : List Char) : List Char := (text.reverse.dropWhile isBlank).reverse

def trim (text : List Char) : List Char := trimEnd (trimStart text)

/-- Whether nothing remains of the text after trimming. -/
def blank (text : String) : Bool := text.toList.all isBlank

end WorkflowLaunch.Text
