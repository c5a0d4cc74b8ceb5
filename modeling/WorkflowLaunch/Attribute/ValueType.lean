set_option autoImplicit false

/-!
The types a search attribute can have. Each has one name, matched exactly and case-sensitively.
-/

namespace WorkflowLaunch.Attribute

inductive ValueType where
  | text
  | keyword
  | int
  | double
  | bool
  | datetime
  | keywordList
  deriving DecidableEq, Repr

namespace ValueType

def all : List ValueType := [.text, .keyword, .int, .double, .bool, .datetime, .keywordList]

def name : ValueType → String
  | text => "Text"
  | keyword => "Keyword"
  | int => "Int"
  | double => "Double"
  | bool => "Bool"
  | datetime => "Datetime"
  | keywordList => "KeywordList"

def ofName? (token : String) : Option ValueType := all.find? (·.name == token)

@[simp] theorem ofName?_name (type : ValueType) : ofName? type.name = some type := by
  cases type <;> decide

theorem name_of_ofName? {token : String} {type : ValueType} (found : ofName? token = some type) :
    type.name = token := by
  simpa using List.find?_some found

end ValueType

end WorkflowLaunch.Attribute
