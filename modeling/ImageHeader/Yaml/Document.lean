import ImageHeader.Yaml.Event

/-! YAML documents: the nodes of the only document of a stream, and what its aliases refer to. -/

namespace ImageHeader.Yaml

/-- A node, or the end of the collection around it. -/
inductive Item where
  | alias (number : Nat)
  | scalar (scalar : Scalar)
  | sequence (tag : Option (List UInt8))
  | mapping (tag : Option (List UInt8))
  | close
  deriving DecidableEq, Repr

/-- A document. -/
structure Document where
  /-- The nodes in order; none at all in an empty stream. -/
  items : List Item
  /-- For each anchored node its number and the nodes from it on, last first. -/
  anchored : List (Nat × List Item)
  deriving Repr

namespace Document

/-- The nodes from the one that an alias refers to. -/
def target? (document : Document) (number : Nat) : Option (List Item) :=
  document.anchored.lookup number

/-- The names of anchors with their numbers, newest first. -/
abbrev Names := List (List Char × Nat)

/-- Gives a name the number of the names there are; one that is there already is replaced. -/
def note (names : Names) (name : List Char) : Nat × Names :=
  -- A replaced name leaves the count as it is, so a number may be given out twice; the later node then counts.
  (names.length, (name, names.length) :: names.filter fun pair => pair.1 ≠ name)

/-- Reads the events of a document up to its end: its nodes with the numbers of their anchors, and the events
after it. -/
def readItems? : Names → List Event → List (Item × Option Nat) →
    Option (List (Item × Option Nat) × List Event)
  | _, [], _ => none
  -- An anchor counts from its node on, so that the inside of a collection may refer to it.
  | names, event :: rest, found =>
    let add (anchor : Option (List Char)) (item : Item) :=
      match anchor with
      | none => readItems? names rest ((item, none) :: found)
      | some name =>
        let (number, names) := note names name
        readItems? names rest ((item, some number) :: found)
    match event with
    | .documentStart => none
    | .documentEnd => some (found.reverse, rest)
    -- An alias must have its anchor before it.
    | .alias name =>
      match names.lookup name with
      | some number => readItems? names rest ((.alias number, none) :: found)
      | none => none
    | .scalar anchor scalar => add anchor (.scalar scalar)
    | .sequenceStart properties => add properties.anchor (.sequence properties.tag)
    | .mappingStart properties => add properties.anchor (.mapping properties.tag)
    | .sequenceEnd | .mappingEnd => readItems? names rest ((.close, none) :: found)

/-- The anchored nodes of a list of nodes, last first. -/
def anchoredOf : List (Item × Option Nat) → List (Nat × List Item) → List (Nat × List Item)
  | [], found => found
  | (item, some number) :: rest, found =>
    anchoredOf rest ((number, item :: rest.map (·.1)) :: found)
  | (_, none) :: rest, found => anchoredOf rest found

/-- The document of a stream; `none` when it holds more than one, or an alias without an anchor before it. -/
def ofEvents? (events : List Event) : Option Document :=
  match events with
  | [] => some ⟨[], []⟩
  | .documentStart :: rest =>
    match readItems? [] rest [] with
    | some (found, []) => some ⟨found.map (·.1), anchoredOf found []⟩
    | _ => none
  | _ => none

/-- The document of a text. -/
def ofText? (text : String) : Option Document := do
  let tokens ← tokensOf? text
  let events ← eventsOf? tokens
  ofEvents? events

/-- Passes over nodes until `depth` collections are closed. -/
def skipClosed : Nat → List Item → List Item
  | _, [] => []
  | depth, item :: rest =>
    match item with
    -- Nothing is skipped yet at depth zero: the first node decides how far to go.
    | .sequence _ | .mapping _ => skipClosed (depth + 1) rest
    | .close =>
      match depth with
      | 0 | 1 => rest
      | depth + 1 => skipClosed depth rest
    | .alias _ | .scalar _ =>
      match depth with
      | 0 => rest
      | _ => skipClosed depth rest

/-- Passes over one node with all that is in it. -/
def skipNode (items : List Item) : List Item := skipClosed 0 items

/-- The node here, with an alias replaced by what it refers to. -/
def node? (document : Document) (items : List Item) : Option Item :=
  match items with
  -- The target of an alias is never an alias, since only nodes with content are anchored.
  | .alias number :: _ => (document.target? number).bind List.head?
  | item :: _ => some item
  | [] => none

end Document

end ImageHeader.Yaml
