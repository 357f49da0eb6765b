import ImageHeader.Log.Event
import ImageHeader.Log.Pattern.Spelling

/-! Log filters: directives that say which events are shown. -/

namespace ImageHeader.Log

/-- A directive of a filter. -/
structure Directive where
  /-- The beginning of the targets it is about, as bytes; all of them when there is none. -/
  target : Option (List UInt8) := none
  /-- Whether it is about events within a span, of which there are none. -/
  spanned : Bool := false
  /-- The fields that an event must have, and whether a value is asked for, which no event is tested for. -/
  fields : List (List UInt8 × Bool) := []
  /-- The rank of the levels it shows; zero shows none. -/
  rank : Nat := 5
  deriving DecidableEq, Repr

/-- A filter. -/
abbrev Filter := List Directive

/-- A text with its ASCII letters in lower case. -/
def lowerCase (text : String) : String := String.ofList (text.toList.map Char.toLower)

/-- The number that a text of digits, perhaps after a plus sign, spells. -/
def number? (text : String) : Option Nat :=
  let digits :=
    match text.toList with
    | '+' :: rest => rest
    | chars => chars
  if digits.isEmpty || !digits.all Char.isDigit then none
  else some (digits.foldl (fun total digit => total * 10 + (digit.toNat - '0'.toNat)) 0)

/-- The rank for a level given by number or name; nothing at all means errors only. -/
def rank? (text : String) : Option Nat :=
  match number? text with
  -- Numbers beyond the levels are no ranks.
  | some number => if number ≤ 5 then some number else none
  | none =>
    match lowerCase text with
    | "off" => some 0
    | "" | "error" => some Level.error.rank
    | "warn" => some Level.warn.rank
    | "info" => some Level.info.rank
    | "debug" => some Level.debug.rank
    | "trace" => some Level.trace.rank
    | _ => none

/-- Where in a directive a reader is; a number is the index of the byte where a part began. -/
inductive Part where
  | start
  | name (first : Nat)
  | span (first : Nat)
  | field (first : Nat)
  | fields
  | bracketed
  | level (first : Nat)
  deriving DecidableEq, Repr

/-- A directive that is being read. -/
structure Drafting where
  /-- The directive so far. -/
  directive : Directive
  /-- Where the reader is. -/
  part : Part
  /-- The index of the next byte. -/
  index : Nat

/-- Some bytes of a directive's text. -/
def slice (bytes : List UInt8) (first last : Nat) : List UInt8 := (bytes.drop first).take (last - first)

/-- Whether characters spell a number without a sign: digits, perhaps around a point, with an exponent or without. -/
def isUnsigned (chars : List Char) : Bool :=
  let whole := chars.takeWhile Char.isDigit
  let rest := chars.drop whole.length
  -- Digits may be missing on one side of the point, not on both.
  let point := rest.head? = some '.'
  let decimals := if point then (rest.drop 1).takeWhile Char.isDigit else []
  let rest := if point then rest.drop (decimals.length + 1) else rest
  let exponent :=
    match rest with
    | [] => true
    | mark :: '+' :: digits | mark :: '-' :: digits | mark :: digits =>
      (mark = 'e' || mark = 'E') && !digits.isEmpty && digits.all Char.isDigit
  !(whole.isEmpty && decimals.isEmpty) && exponent

/-- Whether a text after a plus sign is a number; one that has no plus sign is also a pattern. -/
def isNumber (text : String) : Bool :=
  isUnsigned text.toList || ["inf", "infinity", "nan"].contains (lowerCase text)

/-- Whether a text says what value a field is to have: a number or a pattern. -/
def isValue (text : String) : Bool :=
  Pattern.isMeaningful text ||
    match text.toList with
    | '+' :: rest => isNumber (String.ofList rest)
    | _ => false

/-- Adds a field requirement; one that is empty is refused, and so is one for a value that is none. -/
def addField? (directive : Directive) (bytes : List UInt8) : Option Directive :=
  if bytes = [] then none
  else
    let name := bytes.takeWhile (· ≠ 0x3D)
    let valued := decide (name.length < bytes.length)
    -- What a second sign of equality sets off is not looked at.
    let value := (bytes.drop (name.length + 1)).takeWhile (· ≠ 0x3D)
    if valued && !(Utf8.decode? value).any isValue then none
    else some { directive with fields := directive.fields ++ [(name, valued)] }

/-- Takes one character of a directive whose bytes are `bytes`. -/
def draft? (bytes : List UInt8) (state : Option Drafting) (char : Char) : Option Drafting := do
  let drafting ← state
  let index := drafting.index
  let directive := drafting.directive
  let next (directive : Directive) (part : Part) : Drafting :=
    ⟨directive, part, index + char.utf8Size⟩
  match drafting.part with
  -- Only these characters may begin a target; later ones may be any.
  | .start =>
    if char = '[' then return next directive (.span (index + 1))
    else if Alphanumeric.contains char || char = '-' || char = ':' || char = '_' then
      return next directive (.name index)
    else none
  | .name first =>
    if char = '=' then
      return next { directive with target := some (slice bytes first index) } (.level (index + 1))
    else if char = '[' then
      return next { directive with target := some (slice bytes first index) } (.span (index + 1))
    else return next directive (.name first)
  -- A name of a span may be empty, and then only its fields count.
  | .span first =>
    if char = ']' then return next { directive with spanned := true } .bracketed
    else if char = '\x7b' then
      return next { directive with spanned := first < index } (.field (index + 1))
    else return next directive (.span first)
  | .field first =>
    if char = '\x7d' then
      return next (← addField? directive (slice bytes first index)) .fields
    else return next directive (.field first)
  | .fields => if char = ']' then return next directive .bracketed else none
  | .bracketed => if char = '=' then return next directive (.level (index + 1)) else none
  | .level first => return next directive (.level first)

/-- Reads a directive: a level, a target, or a target with a level. -/
def Directive.ofText? (text : String) : Option Directive := do
  -- Blanks around the text are passed over, but the parts are cut out of the text as it is.
  let bytes := Utf8.encode text
  let drafting ← (Blank.trim text).toList.foldl (draft? bytes) (some ⟨{}, .start, 0⟩)
  let rest (first : Nat) : List UInt8 := bytes.drop first
  match drafting.part with
  | .name first =>
    match (Utf8.decode? (rest first)).bind rank? with
    -- A single word that is a level is one, even if a target has the same name.
    | some rank => return { rank := rank }
    | none => return { target := some (rest first) }
  | .level first =>
    if rest first = [] then return drafting.directive
    else
      let rank ← (Utf8.decode? (rest first)).bind rank?
      return { drafting.directive with rank := rank }
  | .bracketed => return drafting.directive
  | _ => none

/-- Reads a filter: directives between commas, of which empty ones mean nothing. -/
def Filter.ofText? (text : String) : Option Filter :=
  let parts := (text.toList.splitOn ',').filter fun part => !part.isEmpty
  -- One directive that cannot be read spoils the whole filter.
  parts.mapM fun part => Directive.ofText? (String.ofList part)

/-- The default filter for a count of requests to say more. -/
def defaultDirective (verbosity : Nat) : String :=
  match verbosity with
  | 0 => "warn"
  | 1 => "info"
  | 2 => "debug"
  | _ => "trace"

/-- Whether a directive is about an event. -/
def Directive.concerns (directive : Directive) (event : Event) : Bool :=
  let named := "message" :: event.fields.map (·.1)
  -- No event lies within a span, so a directive about one concerns none.
  !directive.spanned &&
    directive.target.all (fun target => target.isPrefixOf (Utf8.encode event.target)) &&
    directive.fields.all fun (name, valued) => !valued && named.any fun field => Utf8.encode field = name

/-- Whether a directive is at least as particular as another: by its target's length, then by its fields. -/
def Directive.outranks (directive other : Directive) : Bool :=
  let length (directive : Directive) : Nat := (directive.target.map fun target => target.length + 1).getD 0
  let names (directive : Directive) : List (List UInt8) := directive.fields.map (·.1)
  if length directive ≠ length other then length other < length directive
  else if directive.fields.length ≠ other.fields.length then
    other.fields.length < directive.fields.length
  else decide (names other ≤ names directive)

/-- The most particular directive about an event; of equal ones the last counts. -/
def Filter.directiveFor (filter : Filter) (event : Event) : Option Directive :=
  (filter.filter fun directive => directive.concerns event).foldl
    (fun best directive =>
      match best with
      | none => some directive
      | some other => if directive.outranks other then some directive else best) none

/-- Whether a filter shows an event. -/
def Filter.shows (filter : Filter) (event : Event) : Bool :=
  (filter.directiveFor event).any fun directive => event.level.rank ≤ directive.rank

/-- The filter that is asked for, or the default one when that is nothing, no text or no filter. -/
def Filter.choose (asked : Option (List UInt8)) (verbosity : Nat) : Filter :=
  match (asked.bind Utf8.decode?).bind Filter.ofText? with
  | some filter => filter
  -- What was asked for counts instead of the default, not beside it.
  | none => (Filter.ofText? (defaultDirective verbosity)).getD []

end ImageHeader.Log
