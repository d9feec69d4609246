import SignalGraph.Value.Yaml.Names

/-!
Tokens of a YAML text. Lists and mappings without brackets have no marks of their own at their start
and end in the text; tokens stand there that follow from columns.
-/

namespace SignalGraph.Yaml

inductive Token where
  | textEnd
  | directive (directive : Directive)
  | documentStart
  | documentEnd
  | listStart
  | mappingStart
  | blockEnd
  | openList
  | closeList
  | openMapping
  | closeMapping
  | comma
  /-- The hyphen before an item of a list without brackets. -/
  | item
  | key
  | value
  | alias (name : String)
  | anchor (name : String)
  | tag (tag : TagText)
  | scalar (text : List Char) (plain : Bool)
deriving Repr, DecidableEq

end SignalGraph.Yaml
