import ShapeSchema.Json.Value
import ShapeSchema.Json.Scalar

/-!
# `ShapeSchema.Json.Tree`: the syntax tree of a JSON text

A text is turned into a tree once, and everything that reads documents is then a recursion on that
tree: `Tree.value` for plain JSON, the decoders of `ShapeSchema.Decode` for typed documents.

The tree also records what is wrong with the text, so `Tree.ofText` never fails. Two kinds of fault
have to be told apart. After a *hard* fault nothing more can be read; it sits in a `broken` node or
in the ending of an array or object, and the tree stops there. A *deferred* fault, such as a number
out of range, spoils one scalar only; it is kept inside that scalar and counts if the scalar is
used. A reader that walks the tree in document order therefore meets faults in the order of the
text.

Values that a reader skips are held to a laxer grammar, so a hard fault carries the wording for both
cases.
-/

set_option autoImplicit false

namespace ShapeSchema.Json

/-- How an array or an object ends. -/
inductive Ending where
  | closed (stop : Nat)
  | broken (fault : HardFault)
  deriving Repr

/-- A key of an object. `stop` is where reading stands after it, before the colon. -/
structure Key where
  name : Except SyntaxError String
  stop : Nat
  /-- The fault where a colon should stand. -/
  colon : Option HardFault

/-- A text as it was written, with places, and with faults where the text went wrong. -/
inductive Tree where
  | null (span : Span)
  | bool (b : Bool) (span : Span)
  | number (n : Except SyntaxError Number) (span : Span)
  | string (s : Except SyntaxError String) (span : Span)
  | array (start : Nat) (items : List Tree) (ending : Ending)
  | object (start : Nat) (fields : List (Key × Tree)) (ending : Ending)
  | broken (start : Nat) (fault : HardFault)

/-! ### Faults and their paths -/

/-- A step from a value into a part of it. A key that could not be read is unknown. -/
inductive Segment where
  | key (name : String)
  | index (n : Nat)
  | unknown
  deriving DecidableEq, Repr

/-- A path is written with points before keys and with brackets around indices; the value itself is
a single point. -/
def pathText (path : List Segment) : String :=
  match path with
  | [] => "."
  | first :: rest =>
    let lead := match first with
      | .key name => name
      | .index n => s!"[{n}]"
      | .unknown => "?"
    rest.foldl (fun text segment => match segment with
      | .key name => text ++ "." ++ name
      | .index n => text ++ s!"[{n}]"
      | .unknown => text ++ ".?") lead

/-- A fault of the text and the path of the value that was being read. -/
structure TreeFault where
  path : List Segment
  error : SyntaxError

/-- A fault at the value itself. -/
def TreeFault.here (e : SyntaxError) : TreeFault := ⟨[], e⟩

/-- A fault of a part is one of the whole, one step further in. -/
def TreeFault.within (segment : Segment) (f : TreeFault) : TreeFault :=
  { f with path := segment :: f.path }

/-- The fault at the colon behind a key, if there is one. -/
def Key.checkColon (key : Key) : Except TreeFault Unit :=
  match key.colon with
  | none => .ok ()
  | some fault => .error (.here fault.reading)

namespace Tree

instance : Inhabited Tree := ⟨.null ⟨0, 0⟩⟩

/-- Where the value starts. -/
def start : Tree → Nat
  | .null s | .bool _ s | .number _ s | .string _ s => s.start
  | .array s _ _ | .object s _ _ | .broken s _ => s

/-! ### From text -/

/-- The rest of a word whose first letter is read. -/
def scanWord (c : Cursor) : List Char → Except HardFault Cursor
  | [] => .ok c
  | expected :: word =>
    match c.rest with
    | [] => .error (c.fault .eofInValue)
    | x :: _ =>
      if x = expected then scanWord c.next word
      else .error (HardFault.both ⟨.expectedIdent, c.offset + 1⟩)

/-- A value that starts neither an array nor an object. -/
def scanScalar (c : Cursor) : Tree × Option Cursor :=
  let start := c.offset
  let word (letters : List Char) (leaf : Span → Tree) : Tree × Option Cursor :=
    match scanWord c.next letters with
    | .ok d => (leaf ⟨start, d.offset⟩, some d)
    | .error fault => (.broken start fault, none)
  match c.rest with
  | [] => (.broken start (c.peekFault .eofInValue), none)
  | 'n' :: _ => word ['u', 'l', 'l'] .null
  | 't' :: _ => word ['r', 'u', 'e'] (.bool true)
  | 'f' :: _ => word ['a', 'l', 's', 'e'] (.bool false)
  | '"' :: _ =>
    match scanString c.next with
    | .ok (text, d) => (.string text ⟨start, d.offset⟩, some d)
    | .error fault => (.broken start fault, none)
  | x :: _ =>
    if x = '-' || x.isDigit then
      match scanNumber c with
      | .ok (n, d) => (.number n ⟨start, d.offset⟩, some d)
      | .error fault => (.broken start fault, none)
    else (.broken start (c.peekFault .expectedValue), none)

/-- A key with the colon after it. -/
def scanKey (c : Cursor) : Except HardFault (Key × Cursor) := do
  let (name, d) ← scanString c.next
  let d := d.skipBlanks
  match d.rest with
  | ':' :: _ => .ok (⟨name, d.offset, none⟩, d.next)
  | [] => .ok (⟨name, d.offset, some (d.peekFault .eofInObject)⟩, d)
  | x :: _ =>
    let stop := if x = '}' then d.offset + 1 else d.offset
    .ok (⟨name, stop, some (d.peekFault .expectedColon)⟩, d)

/-- Whether an array goes on at this place, and where its next item starts. -/
def nextItem (c : Cursor) (first : Bool) : Except Ending Cursor × Option Cursor :=
  let c := c.skipBlanks
  match c.rest with
  | [] => (.error (.broken (c.peekFault .eofInList)), none)
  | ']' :: _ => (.error (.closed (c.offset + 1)), some c.next)
  | ',' :: _ =>
    if first then (.ok c, none)
    else
      let d := c.next.skipBlanks
      match d.rest with
      | [] => (.error (.broken (d.peekFault .eofInValue)), none)
      | ']' :: _ => (.error (.broken (d.peekFaults .trailingComma .expectedValue)), none)
      | _ :: _ => (.ok d, none)
  | _ :: _ =>
    if first then (.ok c, none) else (.error (.broken (c.peekFault .expectedListComma)), none)

/-- Whether an object goes on at this place, and where its next key starts. -/
def nextField (c : Cursor) (first : Bool) : Except Ending Cursor × Option Cursor :=
  let c := c.skipBlanks
  match c.rest with
  | [] => (.error (.broken (c.peekFault .eofInObject)), none)
  | '}' :: _ => (.error (.closed (c.offset + 1)), some c.next)
  | ',' :: _ =>
    if first then (.error (.broken (c.peekFault .keyNotString)), none)
    else
      let d := c.next.skipBlanks
      match d.rest with
      | [] => (.error (.broken (d.peekFaults .eofInValue .eofInObject)), none)
      | '"' :: _ => (.ok d, none)
      | '}' :: _ => (.error (.broken (d.peekFaults .trailingComma .keyNotString)), none)
      | _ :: _ => (.error (.broken (d.peekFault .keyNotString)), none)
  | x :: _ =>
    if first then
      if x = '"' then (.ok c, none) else (.error (.broken (c.peekFault .keyNotString)), none)
    else (.error (.broken (c.peekFault .expectedObjectComma)), none)

mutual

/-- The value at a place, and the place after it unless a hard fault ended the reading. Of two calls
inside one another at least one reads a character, so twice the length of the text is fuel enough.
-/
def scanValue : Nat → Cursor → Tree × Option Cursor
  | 0, c => (.broken c.offset (c.peekFault .eofInValue), none)
  | fuel + 1, c =>
    let c := c.skipBlanks
    match c.rest with
    | '[' :: _ =>
      let (items, ending, d) := scanItems fuel c.next true
      (.array c.offset items ending, d)
    | '{' :: _ =>
      let (fields, ending, d) := scanFields fuel c.next true
      (.object c.offset fields ending, d)
    | _ => scanScalar c

/-- The items of an array from here on, up to its end or to what breaks it off. -/
def scanItems : Nat → Cursor → Bool → List Tree × Ending × Option Cursor
  | 0, c, _ => ([], .broken (c.peekFault .eofInList), none)
  | fuel + 1, c, first =>
    match nextItem c first with
    | (.error ending, d) => ([], ending, d)
    | (.ok d, _) =>
      match scanValue fuel d with
      | (item, none) => ([item], .broken (d.peekFault .eofInList), none)
      | (item, some d) =>
        let (items, ending, d) := scanItems fuel d false
        (item :: items, ending, d)

/-- The fields of an object from here on, up to its end or to what breaks it off. -/
def scanFields : Nat → Cursor → Bool → List (Key × Tree) × Ending × Option Cursor
  | 0, c, _ => ([], .broken (c.peekFault .eofInObject), none)
  | fuel + 1, c, first =>
    match nextField c first with
    | (.error ending, d) => ([], ending, d)
    | (.ok d, _) =>
      match scanKey d with
      | .error fault => ([], .broken fault, none)
      | .ok (key, d) =>
        match scanValue fuel d with
        | (value, none) => ([(key, value)], .broken (d.peekFault .eofInObject), none)
        | (value, some d) =>
          let (fields, ending, d) := scanFields fuel d false
          ((key, value) :: fields, ending, d)

end

/-- The tree of the first value of a text, and what follows it. -/
def scan (text : String) : Tree × Option Cursor :=
  let chars := text.toList
  scanValue (2 * chars.length + 2) ⟨chars, 0⟩

/-- The tree of the first value of a text. -/
def ofText (text : String) : Tree := (scan text).1

/-! ### Skipped values -/

mutual

/-- The fault met in skipping a value. -/
def skipFault? : Tree → Option SyntaxError
  | .array _ items ending => skipItems? items ending
  | .object _ fields ending => skipFields? fields ending
  | .broken _ fault => some fault.skipping
  | .null _ | .bool _ _ | .number _ _ | .string _ _ => none

/-- The first fault that is met when the items of an array are skipped. -/
def skipItems? : List Tree → Ending → Option SyntaxError
  | [], .closed _ => none
  | [], .broken fault => some fault.skipping
  | item :: items, ending =>
    match skipFault? item with
    | some fault => some fault
    | none => skipItems? items ending

/-- The first fault that is met when the fields of an object are skipped. -/
def skipFields? : List (Key × Tree) → Ending → Option SyntaxError
  | [], .closed _ => none
  | [], .broken fault => some fault.skipping
  | (key, value) :: fields, ending =>
    match key.colon with
    | some fault => some fault.skipping
    | none =>
      match skipFault? value with
      | some fault => some fault
      | none => skipFields? fields ending

end

/-! ### Plain values -/

/-- How many levels of nesting are left: none is no limit, and the last level may not be entered. -/
abbrev Depth := Option Nat

/-- A text may nest arrays and objects 127 deep. -/
def Depth.ofText : Depth := some 128

/-- Enters the array or object that starts at `start`. -/
def Depth.enter (depth : Depth) (start : Nat) : Except TreeFault Depth :=
  match depth with
  | none => .ok none
  | some n => if n ≤ 1 then .error (.here ⟨.recursionLimit, start + 1⟩) else .ok (some (n - 1))

mutual

/-- The JSON value of a tree. -/
def valueWithin (depth : Depth) : Tree → Except TreeFault Json
  | .null _ => .ok .null
  | .bool b _ => .ok (.bool b)
  | .number n _ => (n.map .number).mapError .here
  | .string s _ => (s.map .string).mapError .here
  | .array start items ending => do
    let values ← itemValues (← depth.enter start) 0 items ending
    return .array values
  | .object start fields ending => do
    let entries ← fieldValues (← depth.enter start) fields ending
    return .object (Entries.collect entries)
  | .broken _ fault => .error (.here fault.reading)

/-- The values of items, or the first fault among them. -/
def itemValues (depth : Depth) (index : Nat) : List Tree → Ending → Except TreeFault (List Json)
  | [], .closed _ => .ok []
  | [], .broken fault => .error (.here fault.reading)
  | item :: items, ending => do
    let v ← (valueWithin depth item).mapError (·.within (.index index))
    let vs ← itemValues depth (index + 1) items ending
    return v :: vs

/-- The entries of fields, or the first fault among them. -/
def fieldValues (depth : Depth) :
    List (Key × Tree) → Ending → Except TreeFault (List (String × Json))
  | [], .closed _ => .ok []
  | [], .broken fault => .error ((TreeFault.here fault.reading).within .unknown)
  | (key, value) :: fields, ending => do
    let name ← key.name.mapError fun e => (TreeFault.here e).within .unknown
    key.checkColon
    let v ← (valueWithin depth value).mapError (·.within (.key name))
    let vs ← fieldValues depth fields ending
    return (name, v) :: vs

end

/-! ### From values -/

mutual

/-- The tree of a value in memory, which has no places. -/
def ofJson : Json → Tree
  | .null => .null ⟨0, 0⟩
  | .bool b => .bool b ⟨0, 0⟩
  | .number n => .number (.ok n) ⟨0, 0⟩
  | .string s => .string (.ok s) ⟨0, 0⟩
  | .array items => .array 0 (ofItems items) (.closed 0)
  | .object fields => .object 0 (ofFields fields) (.closed 0)

/-- The trees of items. -/
def ofItems : List Json → List Tree
  | [] => []
  | item :: items => ofJson item :: ofItems items

/-- The trees of fields, under keys without faults. -/
def ofFields : List (String × Json) → List (Key × Tree)
  | [] => []
  | (name, value) :: fields => (⟨.ok name, 0, none⟩, ofJson value) :: ofFields fields

end

end Tree

/-- The JSON value that a text holds, with nothing but blanks around it. -/
def ofText (text : String) : Except SyntaxError Json := do
  let (tree, after) := Tree.scan text
  let value ← (tree.valueWithin Tree.Depth.ofText).mapError (·.error)
  match after with
  | none => return value
  | some c =>
    let c := c.skipBlanks
    match c.rest with
    | [] => return value
    | _ :: _ => throw (c.peekFault .trailingCharacters).reading

end ShapeSchema.Json
