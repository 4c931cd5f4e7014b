import SqlPipeline.Yaml.Lexer
import SqlPipeline.Yaml.Looks

/-!
# From tokens to nodes

A document is a table of nodes: scalars, sequences and mappings, each of a kind. Collections refer
to what they hold by places in the table. An alias is such a reference too, so nodes can be shared,
and a collection can hold itself, because its anchor is known before what it holds is read.

The table is built by descent over the tokens; each step of the descent takes at least one token or
hands over to a rule that does, so a few times as many steps as tokens suffice. Whoever needs a
token that is not there meets the fault at which the tokens ended.
-/

namespace SqlPipeline

namespace Yaml

/-- What a node holds, by places in the table. -/
inductive Content where
  | scalar (text : String)
  | sequence (items : List Nat)
  | mapping (entries : List (Nat × Nat))
  deriving DecidableEq, Repr

/-- A node of a document. -/
structure Node where
  kind : Kind
  content : Content
  deriving DecidableEq, Repr

/-- The nodes of a document. -/
abbrev NodeTable := Array Node

namespace Node

/-- The node where nothing is written. -/
def empty : Node := ⟨.null, .scalar ""⟩

/-- The kind that a tag names; the bare exclamation mark says no more than no tag. -/
def taggedKind? : Option String → Option Kind
  | none | some "!" => none
  | some tag => some (Kind.ofTag tag)

/-- The kind of a scalar with a tag or without: a quoted one without a tag is a text, other ones
without the name of a kind go by their looks. -/
def scalarKind (isPlain : Bool) (tag : Option String) (text : String) : Kind :=
  if !isPlain && tag.isNone then .str else (taggedKind? tag).getD (Scalar.looks text)

/-- The kind of a collection that is of its own kind unless a tag names another. -/
def collectionKind (own : Kind) (tag : Option String) : Kind :=
  (taggedKind? tag).getD own

end Node

/-- The tokens to come, the fault met after them, the nodes and anchors so far, and the meanings of
tag handles. -/
structure Parse where
  rest : List Token
  fault : Fault
  nodes : NodeTable := #[]
  anchors : List (String × Nat) := []
  handles : List (String × String) := []

namespace Parse

/-- The meanings of tag handles that always hold. -/
def defaultHandles : List (String × String) :=
  [("!", "!"), ("!!", Kind.tagBeginning)]

/-- The token to come. -/
def here (parse : Parse) : Except Fault Token :=
  match parse.rest with
  | [] => .error parse.fault
  | token :: _ => .ok token

/-- The state after a token. -/
def advance (parse : Parse) : Parse := { parse with rest := parse.rest.tail }

/-- Whether one of some tokens is to come. -/
def isAt (tokens : List Token) (parse : Parse) : Except Fault Bool :=
  parse.here.map tokens.contains

/-- The full tag for a handle and an ending. -/
def fullTag (handle : Option String) (ending : String) (parse : Parse) : Except Fault String :=
  match handle with
  | none => .ok ending
  | some handle =>
    match parse.handles.find? fun entry => entry.1 == handle with
    | some (_, beginning) => .ok (beginning ++ ending)
    | none => .error .malformed

/-- Enters a node into the table, and its place among the anchors. An anchor may be used once. -/
def enter (anchor : Option String) (node : Node) (parse : Parse) : Except Fault (Nat × Parse) :=
  let place := parse.nodes.size
  let entered := { parse with nodes := parse.nodes.push node }
  match anchor with
  | none => .ok (place, entered)
  | some name =>
    if parse.anchors.any fun entry => entry.1 == name then .error .malformed
    else .ok (place, { entered with anchors := (name, place) :: parse.anchors })

/-- Enters the node where nothing is written. -/
def enterEmpty (parse : Parse) : Except Fault (Nat × Parse) :=
  parse.enter none Node.empty

/-- Gives the collection at a place what it holds. -/
def fill (place : Nat) (content : Content) (parse : Parse) : Parse :=
  { parse with nodes := parse.nodes.modify place fun node => { node with content := content } }

/-- The node that an alias stands for. -/
def aliased (name : String) (parse : Parse) : Except Fault (Nat × Parse) :=
  match parse.anchors.find? fun entry => entry.1 == name with
  | some (_, place) => .ok (place, parse)
  | none => .error .malformed

/-- The anchor and the tag before a node, in either order, each at most once. -/
def properties (parse : Parse) : Except Fault (Option String × Option String × Parse) := do
  let next := parse.advance
  match ← parse.here with
  | .anchor name =>
    match ← next.here with
    | .tag handle ending => return (some name, some (← parse.fullTag handle ending), next.advance)
    | _ => return (some name, none, next)
  | .tag handle ending =>
    match ← next.here with
    | .anchor name => return (some name, some (← parse.fullTag handle ending), next.advance)
    | _ => return (none, some (← parse.fullTag handle ending), next)
  | _ => return (none, none, parse)

/-- Enters an empty scalar, for which an anchor or a tag has to be given. -/
def enterBare (anchor tag : Option String) (parse : Parse) : Except Fault (Nat × Parse) :=
  if anchor.isNone && tag.isNone then .error .malformed
  else parse.enter anchor ⟨Node.scalarKind true tag "", .scalar ""⟩

/-- Where a node may stand: in a block, as the key or value of a block mapping, or in brackets. -/
inductive Place where
  | block
  | blockEntry
  | flow
  deriving DecidableEq, Repr

mutual

/-- Reads a node. -/
def node (place : Place) : Nat → Parse → Except Fault (Nat × Parse)
  | 0, _ => .error .malformed
  | steps + 1, parse => do
    match ← parse.here with
    | .reference name => parse.advance.aliased name
    | _ =>
      let (anchor, tag, inner) ← parse.properties
      content place steps anchor tag inner

/-- Reads the content of a node after its properties. -/
def content (place : Place) (steps : Nat) (anchor tag : Option String) (parse : Parse) :
    Except Fault (Nat × Parse) :=
  match steps with
  | 0 => .error .malformed
  | steps + 1 => do
    let sequence := ⟨Node.collectionKind .sequence tag, .sequence []⟩
    let mapping := ⟨Node.collectionKind .mapping tag, .mapping []⟩
    match ← parse.here with
    | .blockEntry =>
      if place == .blockEntry then
        let (index, inside) ← parse.enter anchor sequence
        let (items, last) ← bareItems steps inside
        return (index, last.fill index (.sequence items))
      else parse.enterBare anchor tag
    | .scalar text isPlain =>
      parse.advance.enter anchor ⟨Node.scalarKind isPlain tag text, .scalar text⟩
    | .flowSequenceStart =>
      let (index, inside) ← parse.advance.enter anchor sequence
      let (items, last) ← flowItems steps true inside
      return (index, last.fill index (.sequence items))
    | .flowMappingStart =>
      let (index, inside) ← parse.advance.enter anchor mapping
      let (entries, last) ← flowEntries steps true inside
      return (index, last.fill index (.mapping entries))
    | .blockSequenceStart =>
      if place == .flow then parse.enterBare anchor tag
      else
        let (index, inside) ← parse.advance.enter anchor sequence
        let (items, last) ← blockItems steps inside
        return (index, last.fill index (.sequence items))
    | .blockMappingStart =>
      if place == .flow then parse.enterBare anchor tag
      else
        let (index, inside) ← parse.advance.enter anchor mapping
        let (entries, last) ← blockEntries steps inside
        return (index, last.fill index (.mapping entries))
    | _ => parse.enterBare anchor tag

/-- Reads a node, or the empty node where one of some tokens follows. -/
def orEmpty (place : Place) (steps : Nat) (ends : List Token) (parse : Parse) :
    Except Fault (Nat × Parse) :=
  match steps with
  | 0 => .error .malformed
  | steps + 1 => do if ← parse.isAt ends then parse.enterEmpty else node place steps parse

/-- Reads the items of a block sequence up to its end. -/
def blockItems : Nat → Parse → Except Fault (List Nat × Parse)
  | 0, _ => .error .malformed
  | steps + 1, parse => do
    match ← parse.here with
    | .blockEntry =>
      let (item, next) ← orEmpty .block steps [.blockEntry, .blockEnd] parse.advance
      let (items, last) ← blockItems steps next
      return (item :: items, last)
    | .blockEnd => return ([], parse.advance)
    | _ => .error .malformed

/-- Reads the items of a sequence that is not indented beyond its key. -/
def bareItems : Nat → Parse → Except Fault (List Nat × Parse)
  | 0, _ => .error .malformed
  | steps + 1, parse => do
    match ← parse.here with
    | .blockEntry =>
      let (item, next) ← orEmpty .block steps [.blockEntry, .key, .value, .blockEnd] parse.advance
      let (items, last) ← bareItems steps next
      return (item :: items, last)
    | _ => return ([], parse)

/-- Reads the value after a key, empty when there is no colon. -/
def valueAfter (place : Place) (steps : Nat) (ends : List Token) (parse : Parse) :
    Except Fault (Nat × Parse) :=
  match steps with
  | 0 => .error .malformed
  | steps + 1 => do
    if ← parse.isAt [.value] then orEmpty place steps ends parse.advance else parse.enterEmpty

/-- Reads the entries of a block mapping up to its end. -/
def blockEntries : Nat → Parse → Except Fault (List (Nat × Nat) × Parse)
  | 0, _ => .error .malformed
  | steps + 1, parse => do
    let ends : List Token := [.key, .value, .blockEnd]
    match ← parse.here with
    | .key =>
      let (key, afterKey) ← orEmpty .blockEntry steps ends parse.advance
      let (value, next) ← valueAfter .blockEntry steps ends afterKey
      let (entries, last) ← blockEntries steps next
      return ((key, value) :: entries, last)
    | .blockEnd => return ([], parse.advance)
    | _ => .error .malformed

/-- Reads the items between brackets. A key among them is a mapping with one entry. -/
def flowItems (steps : Nat) (first : Bool) (parse : Parse) : Except Fault (List Nat × Parse) :=
  match steps with
  | 0 => .error .malformed
  | steps + 1 => do
    let isEnd ← parse.isAt [.flowSequenceEnd]
    let isNext ← parse.isAt [.flowEntry]
    if isEnd then return ([], parse.advance)
    else if !first && !isNext then .error .malformed
    else
      let start := if first then parse else parse.advance
      match ← start.here with
      | .flowSequenceEnd => return ([], start.advance)
      | .key =>
        let (item, inside) ← start.advance.enter none ⟨.mapping, .mapping []⟩
        let (key, afterKey) ← orEmpty .flow steps [.value, .flowEntry, .flowSequenceEnd] inside
        let (value, next) ← valueAfter .flow steps [.flowEntry, .flowSequenceEnd] afterKey
        let (items, last) ← flowItems steps false (next.fill item (.mapping [(key, value)]))
        return (item :: items, last)
      | _ =>
        let (item, next) ← node .flow steps start
        let (items, last) ← flowItems steps false next
        return (item :: items, last)

/-- Reads the entries between braces. A node that is no key has an empty value. -/
def flowEntries (steps : Nat) (first : Bool) (parse : Parse) :
    Except Fault (List (Nat × Nat) × Parse) :=
  match steps with
  | 0 => .error .malformed
  | steps + 1 => do
    let isEnd ← parse.isAt [.flowMappingEnd]
    let isNext ← parse.isAt [.flowEntry]
    if isEnd then return ([], parse.advance)
    else if !first && !isNext then .error .malformed
    else
      let start := if first then parse else parse.advance
      match ← start.here with
      | .flowMappingEnd => return ([], start.advance)
      | .key =>
        let (key, afterKey) ←
          orEmpty .flow steps [.value, .flowEntry, .flowMappingEnd] start.advance
        let (value, next) ← valueAfter .flow steps [.flowEntry, .flowMappingEnd] afterKey
        let (entries, last) ← flowEntries steps false next
        return ((key, value) :: entries, last)
      | _ =>
        let (key, afterKey) ← node .flow steps start
        let (value, next) ← afterKey.enterEmpty
        let (entries, last) ← flowEntries steps false next
        return ((key, value) :: entries, last)

end

/-- The meanings of tag handles after directives; a directive may be given once. -/
def directives (versionGiven : Bool) (parse : Parse) : List Token → Except Fault Parse
  | .directive (.version major) :: rest =>
    if versionGiven || major != 1 then .error .malformed
    else directives true { parse with rest := rest } rest
  | .directive (.tagHandle handle beginning) :: rest =>
    if parse.handles.any fun entry => entry.1 == handle then .error .malformed
    else
      directives versionGiven
        { parse with rest := rest, handles := (handle, beginning) :: parse.handles } rest
  | .directive .other :: rest => directives versionGiven { parse with rest := rest } rest
  | rest => .ok { parse with rest := rest, handles := parse.handles ++ defaultHandles }

/-- Makes sure that no second document follows. -/
def ended (parse : Parse) : Except Fault Unit := do
  let last := { parse with rest := parse.rest.dropWhile (· == Token.documentEnd), handles := [] }
  match ← last.here with
  | .streamEnd => return
  | _ =>
    let next ← directives false last last.rest
    let _ ← next.here
    .error .malformed

/-- The place of the only document's top node, if there is one, and all nodes. -/
def document (reading : Reading) : Except Fault (Option (Nat × NodeTable)) := do
  let steps := 4 * reading.tokens.length + 16
  let start : Parse := { rest := reading.tokens, fault := reading.fault }
  match ← start.here with
  | .streamEnd => return none
  | .directive _ | .documentStart =>
    let prepared ← directives false start start.rest
    if ← prepared.isAt [.documentStart] then
      let (top, last) ←
        orEmpty .block steps [.directive .other, .documentStart, .documentEnd, .streamEnd]
          prepared.advance
      last.ended
      return some (top, last.nodes)
    else .error .malformed
  | _ =>
    let (top, last) ← node .block steps { start with handles := defaultHandles }
    last.ended
    return some (top, last.nodes)

end Parse

end Yaml

end SqlPipeline
