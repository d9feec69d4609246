import SignalGraph.Value.Yaml.Feed
import SignalGraph.Value.Yaml.Tag
import SignalGraph.Value.Yaml.Token

/-!
What the tokens of a YAML text say in order: where documents, lists and mappings start and end, and
which scalars and aliases stand in them. A value that is left out is an empty scalar.
-/

namespace SignalGraph.Yaml

/-- What stands before a node: a name by which aliases find it, and its tag in full. -/
structure Properties where
  anchor : Option String := none
  tag : Option String := none
deriving Repr, DecidableEq

/-- The form of a scalar decides of what kind it is only if it `isOpen`: without quotes and a tag, or
with an exclamation mark alone for a tag. -/
inductive Event where
  | documentStart
  | documentEnd
  | alias (name : String)
  | scalar (properties : Properties) (isOpen : Bool) (text : List Char)
  | listStart (properties : Properties)
  | mappingStart (properties : Properties)
  | collectionEnd
deriving Repr, DecidableEq

/-- What may come next, within what is open. -/
inductive Stage where
  | firstDocument
  | nextDocument
  /-- The content of a document, which may be left out behind a document's mark. -/
  | content (marked : Bool)
  | documentEnd
  | listItem
  /-- An item of a list in the column of the mapping around it. -/
  | sharedItem
  | mappingKey
  | mappingValue
  | flowItem (first : Bool)
  /-- A key in a list in brackets, which with its value is a mapping of one entry. -/
  | pairKey
  | pairValue
  | pairEnd
  | flowKey (first : Bool)
  | flowValue
  /-- The value of a key without a colon. -/
  | flowKeyAlone
deriving Repr, DecidableEq

/-- Tokens to be read, the stages of what is open, the innermost first, and short names for the
starts of tags. -/
structure Reading where
  tokens : Feed Token
  stages : List Stage := [.firstDocument]
  handles : List (String × String) := []

abbrev Reader (α : Type) := StateT Reading (Except Fault) α

namespace Reading

/-- The next token, which stays. -/
def peek : Reader Token := do
  match (← get).tokens with
  | .item token _ => return token
  | .broken fault => throw fault
  | .done => throw .misplacedToken

/-- Goes on behind the next token. -/
def skip : Reader Unit :=
  modify fun r =>
    match r.tokens with
    | .item _ tokens => { r with tokens }
    | _ => r

/-- Goes on behind the next token if it is the given one. -/
def skipIf (token : Token) : Reader Bool := do
  if (← peek) == token then
    skip
    return true
  else return false

def nextIsOneOf (tokens : List Token) : Reader Bool := return tokens.contains (← peek)

def push (stage : Stage) : Reader Unit := modify fun r => { r with stages := stage :: r.stages }

/-- A value that is left out. -/
def emptyScalar : Event := .scalar {} true []

/-- The short names that a document has unless it gives them itself. -/
def usualHandles : List (String × String) := [("!", "!"), ("!!", commonStart)]

/-- The short names that directives give, and the tokens behind the directives. Only the first version
can be read, and neither it nor a short name may be given twice. -/
def directives (versionGiven : Bool) (handles : List (String × String)) :
    Feed Token → Except Fault (List (String × String) × Feed Token)
  | .item (.directive (.version major)) tokens =>
      if versionGiven || major ≠ 1 then .error .misplacedToken
      else directives true handles tokens
  | .item (.directive (.handle name start)) tokens =>
      if (handles.lookup name).isSome then .error .misplacedToken
      else directives versionGiven ((name, start) :: handles) tokens
  | .item (.directive .other) tokens => directives versionGiven handles tokens
  | tokens => .ok (handles, tokens)

/-- The tokens behind marks of the end of a document. -/
def dropDocumentEnds : Feed Token → Feed Token
  | .item .documentEnd tokens => dropDocumentEnds tokens
  | tokens => tokens

/-- Starts a document with its directives and its mark; there is none at the end of the text. -/
def markedDocument : Reader (Option Event) := do
  modify fun r => { r with tokens := dropDocumentEnds r.tokens }
  if ← nextIsOneOf [.textEnd] then return none
  let (handles, tokens) ← directives false [] (← get).tokens
  modify fun r => { r with tokens, handles := handles ++ usualHandles }
  if !(← skipIf .documentStart) then throw .misplacedToken
  push .documentEnd
  push (.content true)
  return some .documentStart

/-- A tag in full. -/
def fullTag (tag : TagText) : Reader String := do
  match tag.handle with
  | none => return tag.suffix
  | some handle =>
      match (← get).handles.lookup handle with
      | some start => return start ++ tag.suffix
      | none => throw .misplacedToken

/-- An anchor and a tag, in any order, either of which may be missing. -/
def properties : Reader (Option String × Option TagText) := do
  match ← peek with
  | .anchor name =>
      skip
      match ← peek with
      | .tag tag => do
          skip
          return (some name, some tag)
      | _ => return (some name, none)
  | .tag tag =>
      skip
      match ← peek with
      | .anchor name => do
          skip
          return (some name, some tag)
      | _ => return (none, some tag)
  | _ => return (none, none)

/-- Starts a list or a mapping whose parts come next. -/
def start (event : Event) (stage : Stage) : Reader Event := do
  push stage
  return event

/-- Starts a node. Only where `block` says so it may be a list or a mapping without brackets, and only
where `shared` says so a list in the column of the mapping around it. An anchor or a tag may stand for
a whole node. -/
def node (block shared : Bool) : Reader Event := do
  if let .alias name ← peek then
    skip
    return .alias name
  let (anchor, tagText) ← properties
  let tag ← tagText.mapM fullTag
  let isOpen : Bool := tag = none || tag = some "!"
  let given : Properties := { anchor, tag := if isOpen then none else tag }
  match ← peek, block, shared with
  | .scalar text plain, _, _ =>
      skip
      return .scalar given ((plain && tag = none) || tag = some "!") text
  | .openList, _, _ => do skip; start (.listStart given) (.flowItem true)
  | .openMapping, _, _ => do skip; start (.mappingStart given) (.flowKey true)
  | .item, _, true => start (.listStart given) .sharedItem
  | .listStart, true, _ => do skip; start (.listStart given) .listItem
  | .mappingStart, true, _ => do skip; start (.mappingStart given) .mappingKey
  | _, _, _ =>
      if anchor = none && tag = none then throw .misplacedToken
      else return .scalar given isOpen []

/-- A node, or an empty scalar if one of some tokens follows; then `stage` comes. -/
def nodeUnless (ends : List Token) (block shared : Bool) (stage : Stage) :
    Reader (Option Event) := do
  push stage
  if ← nextIsOneOf ends then return some emptyScalar else return some (← node block shared)

/-- An empty scalar before the next token; then `stage` comes. -/
def emptyThen (stage : Stage) : Reader (Option Event) := do
  let _ ← peek
  push stage
  return some emptyScalar

/-- Tokens before which a part without brackets may be left out. -/
def partEnds : List Token := [.key, .value, .blockEnd]

/-- Whether brackets close here, or else behind a comma, which must stand between two parts. -/
def closes (closing : Token) (first : Bool) : Reader Bool := do
  if ← skipIf closing then return true
  if first then return false
  if !(← skipIf .comma) then throw .misplacedToken
  skipIf closing

/-- The next event at a stage, which is over with it; none at the end of the text. -/
def step : Stage → Reader (Option Event)
  | .firstDocument => do
      match ← peek with
      | .directive _ => markedDocument
      | .documentStart => markedDocument
      | .textEnd => markedDocument
      | _ =>
          modify fun r => { r with handles := usualHandles }
          push .documentEnd
          push (.content false)
          return some .documentStart
  | .nextDocument => markedDocument
  | .content marked => do
      match ← peek, marked with
      | .directive _, true => return some emptyScalar
      | .documentStart, true => return some emptyScalar
      | .documentEnd, true => return some emptyScalar
      | .textEnd, true => return some emptyScalar
      | _, _ => return some (← node true false)
  | .documentEnd => do
      let _ ← skipIf .documentEnd
      push .nextDocument
      return some .documentEnd
  | .listItem => do
      if ← skipIf .item then nodeUnless [.item, .blockEnd] true false .listItem
      else if ← skipIf .blockEnd then return some .collectionEnd
      else throw .misplacedToken
  | .sharedItem => do
      if ← skipIf .item then nodeUnless (.item :: partEnds) true false .sharedItem
      else return some .collectionEnd
  | .mappingKey => do
      if ← skipIf .key then nodeUnless partEnds true true .mappingValue
      else if ← skipIf .blockEnd then return some .collectionEnd
      else throw .misplacedToken
  | .mappingValue => do
      if ← skipIf .value then nodeUnless partEnds true true .mappingKey
      else emptyThen .mappingKey
  | .flowItem first => do
      if ← closes .closeList first then return some .collectionEnd
      if ← nextIsOneOf [.key] then return some (← start (.mappingStart {}) .pairKey)
      push (.flowItem false)
      return some (← node false false)
  | .pairKey => do
      skip
      nodeUnless [.value, .comma, .closeList] false false .pairValue
  | .pairValue => do
      if ← skipIf .value then nodeUnless [.comma, .closeList] false false .pairEnd
      else emptyThen .pairEnd
  | .pairEnd => do
      let _ ← peek
      push (.flowItem false)
      return some .collectionEnd
  | .flowKey first => do
      if ← closes .closeMapping first then return some .collectionEnd
      if ← skipIf .key then nodeUnless [.value, .comma, .closeMapping] false false .flowValue
      else
        push .flowKeyAlone
        return some (← node false false)
  | .flowValue => do
      if ← skipIf .value then nodeUnless [.comma, .closeMapping] false false (.flowKey false)
      else emptyThen (.flowKey false)
  | .flowKeyAlone => emptyThen (.flowKey false)

/-- The events that are still to come. -/
def eventsFrom (fuel : Nat) (r : Reading) : Feed Event :=
  match fuel, r.stages with
  | fuel + 1, stage :: stages =>
      match (step stage).run { r with stages } with
      | .ok (some event, r) => .item event (eventsFrom fuel r)
      | .ok (none, _) => .done
      | .error fault => .broken fault
  | _, _ => .done

end Reading

/-- The events of a text. No token makes more than four of them. -/
def Event.ofTokens (tokens : Feed Token) : Feed Event :=
  Reading.eventsFrom (6 * tokens.toList.length + 8) { tokens }

end SignalGraph.Yaml
