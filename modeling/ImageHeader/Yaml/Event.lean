import ImageHeader.Yaml.Token

/-! Events of a YAML stream: the nodes of its documents in order, checked against the grammar. -/

namespace ImageHeader.Yaml

/-- What may be said of a node beside its content. -/
structure Properties where
  /-- The name under which aliases refer to the node. -/
  anchor : Option (List Char) := none
  /-- The full tag of the node. -/
  tag : Option (List UInt8) := none
  deriving DecidableEq, Repr

/-- A scalar with what is said of it. -/
structure Scalar where
  /-- The text. -/
  text : List Char
  /-- How it is written. -/
  style : Style
  /-- The full tag, if any. -/
  tag : Option (List UInt8)
  deriving DecidableEq, Repr

/-- An event. -/
inductive Event where
  | documentStart
  | documentEnd
  | alias (name : List Char)
  | scalar (anchor : Option (List Char)) (scalar : Scalar)
  | sequenceStart (properties : Properties)
  | sequenceEnd
  | mappingStart (properties : Properties)
  | mappingEnd
  deriving DecidableEq, Repr

/-- What a parser expects next. -/
inductive Expectation where
  | firstDocument
  | furtherDocument
  | documentContent
  | documentEnd
  | node (block indentless : Bool)
  | blockEntry
  | indentlessEntry
  | blockKey
  | blockValue
  | flowItem (first : Bool)
  | pairKey
  | pairValue
  | pairEnd
  | flowKey (first : Bool)
  | flowValue (absent : Bool)
  deriving DecidableEq, Repr

/-- A stream of tokens that is being read. -/
structure Parser where
  /-- The tokens from here on. -/
  tokens : List Token
  /-- What is expected now and after that, innermost first. -/
  expected : List Expectation
  /-- The handles of tags and their stems. -/
  handles : List (List Char × List UInt8)
  /-- The events so far, last first. -/
  events : List Event

namespace Parser

/-- The handles that every document knows. -/
def commonHandles : List (List Char × List UInt8) :=
  [(['!'], [0x21]), (['!', '!'], "tag:yaml.org,2002:".toUTF8.toList)]

/-- The parser before the first token. -/
def start (tokens : List Token) : Parser := ⟨tokens, [.firstDocument], commonHandles, []⟩

/-- The token here; a stream that is used up stays at its end. -/
def token (parser : Parser) : Token := parser.tokens.headD .streamEnd

/-- Passes over the token here. -/
def skip (parser : Parser) : Parser := { parser with tokens := parser.tokens.drop 1 }

/-- Adds an event. -/
def emit (parser : Parser) (event : Event) : Parser :=
  { parser with events := event :: parser.events }

/-- Says what is expected next, before what was expected already. -/
def expect (parser : Parser) (expectations : List Expectation) : Parser :=
  { parser with expected := expectations ++ parser.expected }

/-- Adds the scalar that a place without a node stands for. -/
def emitEmpty (parser : Parser) : Parser :=
  parser.emit (.scalar none ⟨[], .plain, none⟩)

/-- Reads the directives before a document; a version or a handle may be given once. -/
def directives? : Nat → Bool → List (List Char × List UInt8) → Parser → Option Parser
  | 0, _, _, _ => none
  | fuel + 1, versioned, given, parser =>
    match parser.token with
    | .version major minor =>
      -- Only the two versions of the first kind are known.
      if versioned || major ≠ 1 || !(minor = 1 || minor = 2) then none
      else directives? fuel true given parser.skip
    | .handle name stem =>
      if given.any fun pair => pair.1 = name then none
      else directives? fuel versioned ((name, stem) :: given) parser.skip
    | _ =>
      -- A document may redefine a common handle, which then counts for it alone.
      let added := commonHandles.filter fun pair => given.all fun other => other.1 ≠ pair.1
      some { parser with handles := given ++ added }

/-- Begins a document, or ends the stream. -/
def document? (first : Bool) (parser : Parser) : Option Parser := do
  -- Marks of an end that follow each other end one document.
  let parser :=
    if first then parser
    else { parser with tokens := parser.tokens.dropWhile (· = .documentEnd) }
  match parser.token with
  | .streamEnd => return parser
  | .version .. | .handle .. | .documentStart =>
    let parser ← directives? (parser.tokens.length + 1) false [] parser
    if parser.token = .documentStart then
      return (parser.skip.emit .documentStart).expect [.documentContent, .documentEnd]
    else none
  | _ =>
    -- Only the first document may begin without its mark.
    if first then return (parser.emit .documentStart).expect [.node true false, .documentEnd]
    else none

/-- Reads an anchor, if one is here. -/
def anchor (parser : Parser) : Option (List Char) × Parser :=
  match parser.token with
  | .anchor name => (some name, parser.skip)
  | _ => (none, parser)

/-- Reads a tag, if one is here; its handle must be known. -/
def tag? (parser : Parser) : Option (Option (List UInt8) × Parser) :=
  match parser.token with
  | .tag [] suffix => some (some suffix, parser.skip)
  | .tag handle suffix =>
    (parser.handles.lookup handle).map fun stem => (some (stem ++ suffix), parser.skip)
  | _ => some (none, parser)

/-- Reads the properties of a node in either order. -/
def properties? (parser : Parser) : Option (Properties × Parser) := do
  match parser.token with
  | .tag .. =>
    let (tag, parser) ← parser.tag?
    let (anchor, parser) := parser.anchor
    return (⟨anchor, tag⟩, parser)
  | _ =>
    let (anchor, parser) := parser.anchor
    let (tag, parser) ← parser.tag?
    return (⟨anchor, tag⟩, parser)

/-- Reads a node up to its first item. -/
def node? (block indentless : Bool) (parser : Parser) : Option Parser := do
  match parser.token with
  -- An alias is a node by itself and has no properties.
  | .alias name => return parser.skip.emit (.alias name)
  | _ =>
    let (properties, parser) ← parser.properties?
    match parser.token with
    | .entry =>
      -- As the value of a mapping, a sequence may stand at the mapping's own margin.
      if indentless then
        return (parser.emit (.sequenceStart properties)).expect [.indentlessEntry]
      else empty? properties parser
    | .scalar text style =>
      return parser.skip.emit (.scalar properties.anchor ⟨text, style, properties.tag⟩)
    | .flowSequence =>
      return (parser.skip.emit (.sequenceStart properties)).expect [.flowItem true]
    | .flowMapping =>
      return (parser.skip.emit (.mappingStart properties)).expect [.flowKey true]
    | .blockSequence =>
      if block then return (parser.skip.emit (.sequenceStart properties)).expect [.blockEntry]
      else empty? properties parser
    | .blockMapping =>
      if block then return (parser.skip.emit (.mappingStart properties)).expect [.blockKey]
      else empty? properties parser
    | _ => empty? properties parser
where
  /-- A node without content must have properties. -/
  empty? (properties : Properties) (parser : Parser) : Option Parser :=
    if properties.anchor.isNone && properties.tag.isNone then none
    else some (parser.emit (.scalar properties.anchor ⟨[], .plain, properties.tag⟩))

/-- Reads a node and then something else, or takes the place to be empty where a token of `ends` stands. -/
def nodeOrEmpty (parser : Parser) (block indentless : Bool) (ends : List Token)
    (next : Expectation) : Parser :=
  if ends.contains parser.token then parser.emitEmpty.expect [next]
  else parser.expect [.node block indentless, next]

/-- Does what is expected next; the expectation has been taken off already. -/
def meet? (parser : Parser) : Expectation → Option Parser
  | .firstDocument => parser.document? true
  | .furtherDocument => parser.document? false
  -- Between its two marks a document may be empty.
  | .documentContent =>
    match parser.token with
    | .version .. | .handle .. | .documentStart | .documentEnd | .streamEnd =>
      some parser.emitEmpty
    | _ => some (parser.expect [.node true false])
  | .documentEnd =>
    -- Handles are known to their own document only.
    let parser := if parser.token = .documentEnd then parser.skip else parser
    some (({ parser with handles := commonHandles }.emit .documentEnd).expect [.furtherDocument])
  | .node block indentless => parser.node? block indentless
  | .blockEntry =>
    match parser.token with
    | .entry => some (parser.skip.nodeOrEmpty true false [.entry, .blockEnd] .blockEntry)
    | .blockEnd => some (parser.skip.emit .sequenceEnd)
    | _ => none
  -- No token closes such a sequence: it ends where no entry follows.
  | .indentlessEntry =>
    match parser.token with
    | .entry =>
      some (parser.skip.nodeOrEmpty true false [.entry, .key, .value, .blockEnd] .indentlessEntry)
    | _ => some (parser.emit .sequenceEnd)
  | .blockKey =>
    match parser.token with
    | .key => some (parser.skip.nodeOrEmpty true true [.key, .value, .blockEnd] .blockValue)
    | .blockEnd => some (parser.skip.emit .mappingEnd)
    | _ => none
  | .blockValue =>
    match parser.token with
    | .value => some (parser.skip.nodeOrEmpty true true [.key, .value, .blockEnd] .blockKey)
    -- A key without a value has an empty one.
    | _ => some (parser.emitEmpty.expect [.blockKey])
  | .flowItem first => do
    if parser.token = .flowSequenceEnd then return parser.skip.emit .sequenceEnd
    else
      let parser ← if first then some parser else if parser.token = .comma then some parser.skip else none
      match parser.token with
      -- A key in a list is a mapping of a single pair, which needs no braces.
      | .key => return (parser.skip.emit (.mappingStart {})).expect [.pairKey, .flowItem false]
      | .flowSequenceEnd => return parser.skip.emit .sequenceEnd
      | _ => return parser.expect [.node false false, .flowItem false]
  | .pairKey =>
    match parser.token with
    | .value | .comma | .flowSequenceEnd =>
      -- The sign after an absent key is passed over with it.
      some (parser.skip.emitEmpty.expect [.pairValue])
    | _ => some (parser.expect [.node false false, .pairValue])
  | .pairValue =>
    match parser.token with
    | .value =>
      some (parser.skip.nodeOrEmpty false false [.comma, .flowSequenceEnd] .pairEnd)
    | _ => some (parser.emitEmpty.expect [.pairEnd])
  | .pairEnd => some (parser.emit .mappingEnd)
  | .flowKey first => do
    if parser.token = .flowMappingEnd then return parser.skip.emit .mappingEnd
    else
      let parser ← if first then some parser else if parser.token = .comma then some parser.skip else none
      match parser.token with
      | .key =>
        return parser.skip.nodeOrEmpty false false [.value, .comma, .flowMappingEnd] (.flowValue false)
      | .flowMappingEnd => return parser.skip.emit .mappingEnd
      -- Without a sign before it the node is a key with no value, and a colon after it would have put the sign there.
      | _ => return parser.expect [.node false false, .flowValue true]
  | .flowValue absent =>
    match absent, parser.token with
    | false, .value =>
      some (parser.skip.nodeOrEmpty false false [.comma, .flowMappingEnd] (.flowKey false))
    | _, _ => some (parser.emitEmpty.expect [.flowKey false])

/-- Meets expectations until none is left. -/
def run? : Nat → Parser → Option Parser
  | 0, _ => none
  | fuel + 1, parser =>
    match parser.expected with
    | [] => some parser
    | next :: later => do
      let parser ← { parser with expected := later }.meet? next
      run? fuel parser

end Parser

/-- The events of a stream of tokens; `none` when they follow no grammar. -/
def eventsOf? (tokens : List Token) : Option (List Event) :=
  -- A token meets at most a handful of expectations.
  (Parser.run? (16 * (tokens.length + 2)) (.start tokens)).map fun parser => parser.events.reverse

end ImageHeader.Yaml
