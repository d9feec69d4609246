import SignalGraph.Text.Digit

/-!
What a check of loosely typed data finds wrong, and where. A check goes on after the first issue and
reports all of them in the order of the fields.
-/

namespace SignalGraph.Form

/-- A step from a value into one of its parts. -/
inductive Step where
  | field (name : String)
  | index (i : Nat)
deriving Repr, DecidableEq

inductive Problem where
  | missing
  | extra
  | notModel (name : String)
  | notObject
  | notList
  | notSet
  | notText
  | notInt
  | malformedInt
  | tooLongInt
  | fraction
  | notFinite
  | notFloat
  | malformedFloat
  | notBool
  | malformedBool
  | notAbove (bound : Int)
  | below (bound : Int)
  | above (bound : Int)
  | notChoice (choices : List String)
  | notPath
  | refused (reason : String)
deriving Repr, DecidableEq

/-- The name of a kind of problem. -/
def Problem.code : Problem → String
  | .missing => "missing"
  | .extra => "extra_forbidden"
  | .notModel _ => "model_type"
  | .notObject => "dict_type"
  | .notList => "list_type"
  | .notSet => "set_type"
  | .notText => "string_type"
  | .notInt => "int_type"
  | .malformedInt => "int_parsing"
  | .tooLongInt => "int_parsing_size"
  | .fraction => "int_from_float"
  | .notFinite => "finite_number"
  | .notFloat => "float_type"
  | .malformedFloat => "float_parsing"
  | .notBool => "bool_type"
  | .malformedBool => "bool_parsing"
  | .notAbove _ => "greater_than"
  | .below _ => "greater_than_equal"
  | .above _ => "less_than_equal"
  | .notChoice _ => "enum"
  | .notPath => "path_type"
  | .refused _ => "value_error"

/-- Choices in quotes, the last one after an `or`. -/
def choiceText : List String → String
  | [] => ""
  | [choice] => s!"'{choice}'"
  | [first, last] => s!"'{first}' or '{last}'"
  | choice :: rest => s!"'{choice}', " ++ choiceText rest

def Problem.message : Problem → String
  | .missing => "Field required"
  | .extra => "Extra inputs are not permitted"
  | .notModel name => s!"Input should be a valid dictionary or instance of {name}"
  | .notObject => "Input should be a valid dictionary"
  | .notList => "Input should be a valid list"
  | .notSet => "Input should be a valid set"
  | .notText => "Input should be a valid string"
  | .notInt => "Input should be a valid integer"
  | .malformedInt => "Input should be a valid integer, unable to parse string as an integer"
  | .tooLongInt => "Unable to parse input string as an integer, exceeded maximum size"
  | .fraction => "Input should be a valid integer, got a number with a fractional part"
  | .notFinite => "Input should be a finite number"
  | .notFloat => "Input should be a valid number"
  | .malformedFloat => "Input should be a valid number, unable to parse string as a number"
  | .notBool => "Input should be a valid boolean"
  | .malformedBool => "Input should be a valid boolean, unable to interpret input"
  | .notAbove bound => s!"Input should be greater than {Text.ofInt bound}"
  | .below bound => s!"Input should be greater than or equal to {Text.ofInt bound}"
  | .above bound => s!"Input should be less than or equal to {Text.ofInt bound}"
  | .notChoice choices => "Input should be " ++ choiceText choices
  | .notPath => "Input is not a valid path for <class 'pathlib.Path'>"
  | .refused reason => "Value error, " ++ reason

/-- A problem and the way to it from the value that was checked. -/
structure Issue where
  path : List Step
  problem : Problem
deriving Repr, DecidableEq

/-- A step as reports write it. Points separate the steps of a path, so a name that holds a point
stands between back quotes. -/
def Step.text : Step → String
  | .field name =>
      let cs := name.toList
      let quote := Char.ofNat 0x60
      if cs.contains '.' then String.ofList (quote :: cs ++ [quote]) else name
  | .index i => Text.ofNat i

/-- The lines that report an issue: the path, unless it is the whole value, and the problem. -/
def Issue.lines (issue : Issue) : List String :=
  let problem := s!"  {issue.problem.message} [type={issue.problem.code}]"
  if issue.path.isEmpty then [problem]
  else [".".intercalate (issue.path.map Step.text), problem]

/-- The report of all issues of a value whose form has a name. -/
def report (name : String) (issues : List Issue) : String :=
  let errors := if issues.length = 1 then "error" else "errors"
  let title := s!"{issues.length} validation {errors} for {name}"
  "\n".intercalate (title :: issues.flatMap Issue.lines)

end SignalGraph.Form
