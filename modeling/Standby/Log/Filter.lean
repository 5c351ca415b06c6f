import Standby.Decimal.Binary
import Standby.Log.Event
import Standby.Log.Pattern
import Standby.Text.AlphanumericTable
import Standby.Text.Blank
import Standby.Text.Numeral

/-!
# Log filters

A filter is a list of directives separated by commas. A directive names an
origin, a level, or both as `origin=level`; after the origin it may hold a scope
in brackets, with the name of a span, a condition in braces, or both. A directive
concerns the events whose origin begins with its own. With a condition it concerns
only those that have the named field. Directives that name a span or ask for the
value of a field concern events inside of spans only, and this program has none.

An event passes when the directive that concerns it most closely lets its level
pass. A longer origin is closer, then a condition is closer than none. A filter
without any directive lets only errors pass.

White space is no separator. A directive is recognised without the blanks around
it, but its parts are cut out of the text with the blanks, at the same places, so
a blank in front moves them.
-/

namespace Standby.Log

open Text (isAlphanumeric readUnsigned largestWord trim)

/-- A condition on a field of an event. -/
structure Condition where
  field : List Char
  /-- The condition asks for a value of the field. -/
  valued : Bool
deriving DecidableEq, Repr

/-- One directive. Its rank is the least grave level that passes, and zero when
none does. -/
structure Directive where
  origin : Option (List Char)
  /-- The directive names a span. -/
  spanned : Bool
  condition : Option Condition
  rank : Nat
deriving DecidableEq, Repr

/-- A filter. -/
abbrev Filter := List Directive

/-- The rank of a level by its name, in any letter case, or by its number. -/
def rankOfName (name : List Char) : Option Nat :=
  match readUnsigned largestWord name with
  | .ok number => if number ≤ 5 then some number else none
  | .error _ =>
    match String.ofList (name.map Char.toLower) with
    | "" | "error" => some 1
    | "warn" => some 2
    | "info" => some 3
    | "debug" => some 4
    | "trace" => some 5
    | "off" => some 0
    | _ => none

/-- The rank after an equals sign; nothing at all stands for every level. -/
def rankAfterEquals (name : List Char) : Option Nat :=
  if name.isEmpty then some 5 else rankOfName name

/-- A name alone is a level if it can be, and otherwise an origin whose events
all pass. -/
def Directive.ofName (name : List Char) : Directive :=
  match rankOfName name with
  | some rank => ⟨none, false, none, rank⟩
  | none => ⟨some name, false, none, 5⟩

/-- The bytes of a text in UTF-8. -/
def byteCount : List Char → Nat
  | [] => 0
  | character :: rest => character.utf8Size + byteCount rest

/-- Divide a text after so many bytes, unless that is within a character. -/
def splitBytes? : Nat → List Char → Option (List Char × List Char)
  | 0, text => some ([], text)
  | _, [] => none
  | count, character :: rest =>
    if character.utf8Size ≤ count then
      (splitBytes? (count - character.utf8Size) rest).map fun (taken, left) =>
        (character :: taken, left)
    else none

/-- A directive on its way to be read: what is still to be recognised of it, the
text that its parts are cut out of, and how many bytes were read. -/
structure Reading where
  seen : List Char
  text : List Char
  offset : Nat
deriving DecidableEq, Repr

namespace Reading

/-- The reading of a directive from its start. -/
def ofText (text : List Char) : Reading := ⟨trim text, text, 0⟩

/-- The text from the place that was reached to its end. -/
def remainder? (reading : Reading) : Option (List Char) :=
  (splitBytes? reading.offset reading.text).map (·.2)

/-- Read up to the first character of a class. -/
def upTo (ends : Char → Bool) (reading : Reading) : Option (List Char × Reading) := do
  let bytes := byteCount (reading.seen.takeWhile (!ends ·))
  let (part, _) ← splitBytes? bytes (← reading.remainder?)
  return (part, ⟨reading.seen.dropWhile (!ends ·), reading.text, reading.offset + bytes⟩)

/-- Read one character, which must be the given one. -/
def mark (character : Char) (reading : Reading) : Option Reading :=
  match reading.seen with
  | first :: seen =>
    if first = character then
      some ⟨seen, reading.text, reading.offset + character.utf8Size⟩
    else none
  | [] => none

/-- Read a level after an equals sign; nothing at all stands for every level, with
and without the sign. -/
def level (reading : Reading) : Option Nat :=
  if reading.seen.isEmpty then some 5
  else do rankAfterEquals (← (← reading.mark '=').remainder?)

/-- Read a condition: a field, or a field and a value as `field=value`, where
another equals sign ends the value. A value is a number or a pattern. -/
def condition (reading : Reading) : Option (Condition × Reading) := do
  let (text, rest) ← reading.upTo (· == '\x7d')
  guard (!text.isEmpty)
  let field := text.takeWhile (· != '=')
  match text.dropWhile (· != '=') with
  | [] => return (⟨field, false⟩, ← rest.mark '\x7d')
  | _ :: value =>
    let value := value.takeWhile (· != '=')
    guard ((Decimal.Binary.parse? (String.ofList value)).isSome || Pattern.isPattern value)
    return (⟨field, true⟩, ← rest.mark '\x7d')

/-- Read a scope after its opening bracket, and the level. Empty brackets name a
span too. -/
def scope (origin : Option (List Char)) (reading : Reading) : Option Directive := do
  let (span, rest) ← reading.upTo fun character => character == ']' || character == '\x7b'
  match rest.mark ']' with
  | some rest => return ⟨origin, true, none, ← rest.level⟩
  | none =>
    let (condition, rest) ← (← rest.mark '\x7b').condition
    return ⟨origin, !span.isEmpty, some condition, ← (← rest.mark ']').level⟩

end Reading

/-- A character with which a directive may begin, other than the bracket of a
scope. -/
def startsName (character : Char) : Bool :=
  character == '-' || character == ':' || character == '_' || isAlphanumeric character

/-- A character that ends the origin of a directive. -/
def endsName (character : Char) : Bool := character == '=' || character == '['

/-- Read a directive that begins with a name. If nothing ends the name, the whole
text is the name, blanks and all. -/
def Directive.named (text : List Char) (reading : Reading) : Option Directive :=
  if reading.seen.any endsName then do
    let (origin, rest) ← reading.upTo endsName
    match rest.mark '[' with
    | some rest => rest.scope (some origin)
    | none => return ⟨some origin, false, none, ← rest.level⟩
  else some (.ofName text)

/-- Read one directive. -/
def Directive.parse? (text : List Char) : Option Directive :=
  let reading := Reading.ofText text
  match reading.mark '[' with
  | some reading => reading.scope none
  | none => if reading.seen.head?.any startsName then Directive.named text reading else none

/-- Split a text at its commas. -/
def splitCommas : List Char → List (List Char)
  | [] => [[]]
  | ',' :: rest => [] :: splitCommas rest
  | character :: rest =>
    match splitCommas rest with
    | first :: others => (character :: first) :: others
    | [] => [[character]]

/-- Read a filter; `none` when one of its directives cannot be read. -/
def Filter.parse? (text : String) : Option Filter :=
  let parts := (splitCommas text.toList).filter (!·.isEmpty)
  let directives? := parts.mapM Directive.parse?
  directives?.map fun directives =>
    if directives.isEmpty then [⟨none, false, none, Level.error.rank⟩] else directives

/-- The filter that a setting asks for. One that cannot be read gives way to all
events up to informational ones. -/
def Filter.ofSetting (text : String) : Filter :=
  (Filter.parse? text).getD [⟨none, false, none, Level.info.rank⟩]

/-- A directive concerns an event. -/
def Directive.concerns (directive : Directive) (event : Event) : Bool :=
  !directive.spanned
    && directive.origin.all (·.isPrefixOf event.origin.toList)
    && directive.condition.all fun condition => !condition.valued && event.has condition.field

/-- How closely a directive names its origin. -/
def Directive.closeness (directive : Directive) : Nat :=
  match directive.origin with
  | none => 0
  | some start => start.length + 1

/-- A directive is preferred to one that was given before. Of two conditions, the
one on the field with the later name is preferred. -/
def Directive.displaces (directive held : Directive) : Bool :=
  if directive.closeness = held.closeness then
    match directive.condition, held.condition with
    | none, some _ => false
    | some condition, some other => !decide (condition.field < other.field)
    | _, none => true
  else held.closeness < directive.closeness

/-- Of the directives that concern an event, the preferred one. -/
def Filter.closest (filter : Filter) (event : Event) : Option Directive :=
  filter.foldl
    (fun best directive =>
      if directive.concerns event && best.all directive.displaces then some directive else best)
    none

/-- An event passes the filter. -/
def Filter.passes (filter : Filter) (event : Event) : Bool :=
  match filter.closest event with
  | some directive => event.level.rank ≤ directive.rank
  | none => false

end Standby.Log
