import Conformance.Yaml.Token

/-! # Nodes

The tree that a list of tokens stands for. An alias stands for the node that its anchor was last put
on; inside of that node it is a cycle. A place where a node is expected and none is written holds
an empty scalar.
-/

namespace Conformance.Yaml

inductive Node where
  | scalar (tag : Option String) (style : Style) (text : String)
  | sequence (items : List Node)
  | mapping (pairs : List (Node × Node))
  /-- What stands for another node. Whoever reads that node follows so many aliases. -/
  | alias (follows : Nat) (target : Node)
  | cycle
deriving Repr

namespace Node

def target : Node → Node
  | .alias _ target => target
  | node => node

mutual

def follows : Node → Nat
  | .alias follows _ => follows
  | .sequence items => followsIn items
  | .mapping pairs => followsAmong pairs
  | _ => 0

def followsIn : List Node → Nat
  | [] => 0
  | node :: rest => node.follows + followsIn rest

def followsAmong : List (Node × Node) → Nat
  | [] => 0
  | (key, value) :: rest => key.follows + value.follows + followsAmong rest

end

mutual

/-- How many marks a node is written with: one for a scalar or an alias, two around a collection. -/
def marks : Node → Nat
  | .sequence items => 2 + marksIn items
  | .mapping pairs => 2 + marksAmong pairs
  | _ => 1

def marksIn : List Node → Nat
  | [] => 0
  | node :: rest => node.marks + marksIn rest

def marksAmong : List (Node × Node) → Nat
  | [] => 0
  | (key, value) :: rest => key.marks + value.marks + marksAmong rest

end

/-- How many aliases may be followed for each mark of a document. -/
def repetitionLimit : Nat := 100

def empty : Node := .scalar none .plain ""

/-- The anchors seen so far. Each anchor has a number; a later one of the same name hides it. -/
structure Anchors where
  names : List (String × Nat) := []
  nodes : List (Nat × Node) := []

namespace Anchors

def declare (a : Anchors) (name : String) : Anchors :=
  { a with names := (name, a.names.length) :: a.names }

def complete (a : Anchors) (number : Nat) (node : Node) : Anchors :=
  { a with nodes := (number, .alias (node.follows + 1) node) :: a.nodes }

def resolve (a : Anchors) (name : String) : Option Node :=
  match a.names.find? fun entry => entry.1 = name with
  | none => none
  | some (_, number) =>
    match a.nodes.find? fun entry => entry.1 = number with
    | some (_, node) => some node
    | none => some .cycle

end Anchors

/-- The tokens that are left, and the anchors so far. -/
structure Rest where
  tokens : List Token
  anchors : Anchors := {}

namespace Rest

def tail (r : Rest) : Rest := { r with tokens := r.tokens.tail }

def starts (r : Rest) (ts : List Token) : Bool := r.tokens.head?.any ts.contains

end Rest

structure Properties where
  anchor : Option String := none
  tag : Option (String × String) := none

def readProperties (r : Rest) : Properties × Rest :=
  match r.tokens with
  | .anchor name :: .tag handle suffix :: rest =>
    (⟨some name, some (handle, suffix)⟩, { r with tokens := rest })
  | .tag handle suffix :: .anchor name :: rest =>
    (⟨some name, some (handle, suffix)⟩, { r with tokens := rest })
  | .anchor name :: rest => (⟨some name, none⟩, { r with tokens := rest })
  | .tag handle suffix :: rest => (⟨none, some (handle, suffix)⟩, { r with tokens := rest })
  | _ => ({}, r)

def expandTag (handles : List (String × String)) : Option (String × String) → Option (Option String)
  | none => some none
  | some (handle, suffix) =>
    if handle = "" then some (some suffix)
    else (handles.find? fun entry => entry.1 = handle).map fun entry => some (entry.2 ++ suffix)

/-- The tag that a scalar keeps: a lone exclamation mark is no tag. -/
def scalarTag (tag : Option String) : Option String := tag.filter fun t => t ≠ "!"

def startsNode (block indentless : Bool) (r : Rest) : Bool :=
  match r.tokens with
  | .scalar .. :: _ | .flowSequenceStart :: _ | .flowMappingStart :: _ => true
  | .blockSequenceStart :: _ | .blockMappingStart :: _ => block
  | .blockEntry :: _ => indentless
  | _ => false

mutual

/-- Reads a node. Inside brackets there are no blocks; `indentless` is set where a mapping allows
the items of a sequence at its own column. -/
def read (handles : List (String × String)) :
    Nat → (block indentless : Bool) → Rest → Option (Node × Rest)
  | 0, _, _, _ => none
  | fuel + 1, block, indentless, r =>
    match r.tokens with
    | .alias name :: _ => (r.anchors.resolve name).map fun node => (node, r.tail)
    | _ =>
      let (properties, r) := readProperties r
      match expandTag handles properties.tag with
      | none => none
      | some tag =>
        let number := r.anchors.names.length
        let r : Rest := match properties.anchor with
          | some name => { r with anchors := r.anchors.declare name }
          | none => r
        let found : Option (Node × Rest) :=
          if !startsNode block indentless r then
            if properties.anchor.isSome || tag.isSome then some (.scalar tag .plain "", r) else none
          else match r.tokens with
          | .scalar style text :: _ => some (.scalar (scalarTag tag) style text, r.tail)
          | .flowSequenceStart :: _ =>
            (readFlowSequence handles fuel true r.tail).map fun (items, r) => (.sequence items, r)
          | .flowMappingStart :: _ =>
            (readFlowMapping handles fuel true r.tail).map fun (pairs, r) => (.mapping pairs, r)
          | .blockSequenceStart :: _ =>
            (readBlockSequence handles fuel r.tail).map fun (items, r) => (.sequence items, r)
          | .blockMappingStart :: _ =>
            (readBlockMapping handles fuel r.tail).map fun (pairs, r) => (.mapping pairs, r)
          | _ => (readIndentless handles fuel r).map fun (items, r) => (.sequence items, r)
        match properties.anchor, found with
        | some _, some (node, r) =>
          some (node, { r with anchors := r.anchors.complete number node })
        | _, found => found

def readBlockSequence (handles : List (String × String)) :
    Nat → Rest → Option (List Node × Rest)
  | 0, _ => none
  | fuel + 1, r =>
    match r.tokens with
    | .blockEnd :: _ => some ([], r.tail)
    | .blockEntry :: _ =>
      let r := r.tail
      let item :=
        if r.starts [.blockEntry, .blockEnd] then some (empty, r)
        else read handles fuel true false r
      match item with
      | none => none
      | some (item, r) =>
        (readBlockSequence handles fuel r).map fun (items, r) => (item :: items, r)
    | _ => none

/-- Reads the items of a sequence that stands at the column of the mapping around it. -/
def readIndentless (handles : List (String × String)) :
    Nat → Rest → Option (List Node × Rest)
  | 0, _ => none
  | fuel + 1, r =>
    match r.tokens with
    | .blockEntry :: _ =>
      let r := r.tail
      let item :=
        if r.starts [.blockEntry, .key, .value, .blockEnd] then some (empty, r)
        else read handles fuel true false r
      match item with
      | none => none
      | some (item, r) =>
        (readIndentless handles fuel r).map fun (items, r) => (item :: items, r)
    | _ => some ([], r)

def readBlockMapping (handles : List (String × String)) :
    Nat → Rest → Option (List (Node × Node) × Rest)
  | 0, _ => none
  | fuel + 1, r =>
    match r.tokens with
    | .blockEnd :: _ => some ([], r.tail)
    | .key :: _ =>
      let r := r.tail
      let key :=
        if r.starts [.key, .value, .blockEnd] then some (empty, r)
        else read handles fuel true true r
      match key with
      | none => none
      | some (key, r) =>
        let value :=
          if r.starts [.value] then
            let r := r.tail
            if r.starts [.key, .value, .blockEnd] then some (empty, r)
            else read handles fuel true true r
          else some (empty, r)
        match value with
        | none => none
        | some (value, r) =>
          (readBlockMapping handles fuel r).map fun (pairs, r) => ((key, value) :: pairs, r)
    | _ => none

/-- Reads the items of a sequence in brackets and its closing bracket. An item may be a single
pair. -/
def readFlowSequence (handles : List (String × String)) :
    Nat → (first : Bool) → Rest → Option (List Node × Rest)
  | 0, _, _ => none
  | fuel + 1, first, r =>
    if r.starts [.flowSequenceEnd] then some ([], r.tail)
    else if !first && !r.starts [.flowEntry] then none
    else
      let r := if first then r else r.tail
      if r.starts [.flowSequenceEnd] then some ([], r.tail)
      else
        let item :=
          if r.starts [.key] then
            (readFlowPair handles fuel r.tail).map fun (pair, r) => (.mapping [pair], r)
          else read handles fuel false false r
        match item with
        | none => none
        | some (item, r) =>
          (readFlowSequence handles fuel false r).map fun (items, r) => (item :: items, r)

/-- Reads a pair that is an item of a sequence in brackets, after its key sign. A key that is not
written takes the sign after it along. -/
def readFlowPair (handles : List (String × String)) :
    Nat → Rest → Option ((Node × Node) × Rest)
  | 0, _ => none
  | fuel + 1, r =>
    let key :=
      if r.starts [.value, .flowEntry, .flowSequenceEnd] then some (empty, r.tail)
      else read handles fuel false false r
    match key with
    | none => none
    | some (key, r) =>
      if r.starts [.value] then
        let r := r.tail
        if r.starts [.flowEntry, .flowSequenceEnd] then some ((key, empty), r)
        else (read handles fuel false false r).map fun (value, r) => ((key, value), r)
      else some ((key, empty), r)

def readFlowMapping (handles : List (String × String)) :
    Nat → (first : Bool) → Rest → Option (List (Node × Node) × Rest)
  | 0, _, _ => none
  | fuel + 1, first, r =>
    if r.starts [.flowMappingEnd] then some ([], r.tail)
    else if !first && !r.starts [.flowEntry] then none
    else
      let r := if first then r else r.tail
      if r.starts [.flowMappingEnd] then some ([], r.tail)
      else if r.starts [.key] then
        let r := r.tail
        let key :=
          if r.starts [.value, .flowEntry, .flowMappingEnd] then some (empty, r)
          else read handles fuel false false r
        match key with
        | none => none
        | some (key, r) =>
          let value :=
            if r.starts [.value] then
              let r := r.tail
              if r.starts [.flowEntry, .flowMappingEnd] then some (empty, r)
              else read handles fuel false false r
            else some (empty, r)
          match value with
          | none => none
          | some (value, r) =>
            (readFlowMapping handles fuel false r).map fun (pairs, r) => ((key, value) :: pairs, r)
      else
        match read handles fuel false false r with
        | none => none
        | some (key, r) =>
          (readFlowMapping handles fuel false r).map fun (pairs, r) => ((key, empty) :: pairs, r)

end

/-! ## Documents -/

def standardHandles : List (String × String) := [("!", "!"), ("!!", "tag:yaml.org,2002:")]

/-- Reads the directives of a document: the declared handles, and the rest. A version may be given
once, and a handle may be declared once. -/
def readDirectives : (versioned : Bool) → (handles : List (String × String)) → List Token →
    Option (List (String × String) × List Token)
  | versioned, handles, .version major minor :: rest =>
    if versioned || major ≠ 1 || (minor ≠ 1 && minor ≠ 2) then none
    else readDirectives true handles rest
  | versioned, handles, .tagHandle handle expansion :: rest =>
    if handles.any fun entry => entry.1 = handle then none
    else readDirectives versioned ((handle, expansion) :: handles) rest
  | _, handles, rest => some (handles ++ standardHandles, rest)

def betweenDocuments : Token → Bool
  | .version .. | .tagHandle .. | .documentStart | .documentEnd | .streamEnd => true
  | _ => false

def readRoot (handles : List (String × String)) (tokens : List Token) :
    Option (Node × List Token) :=
  (read handles (4 * tokens.length + 4) true false { tokens }).map fun (node, r) => (node, r.tokens)

/-- Reads the first document of a stream. The answer has no node if the stream is empty. -/
def readDocument (tokens : List Token) : Option (Option Node × List Token) :=
  match tokens with
  | .streamEnd :: _ => some (none, tokens)
  | t :: _ =>
    if !betweenDocuments t || t = .documentEnd then
      (readRoot standardHandles tokens).map fun (node, rest) => (some node, rest)
    else
      match readDirectives false [] tokens with
      | some (handles, .documentStart :: rest) =>
        if rest.head?.any betweenDocuments then some (some empty, rest)
        else (readRoot handles rest).map fun (node, rest) => (some node, rest)
      | _ => none
  | [] => none

/-- The node of a text with one document. The answer has no node if there is none, and is missing
altogether if the text is malformed or has several documents. -/
def ofText? (text : String) : Option (Option Node) := do
  let tokens ← Token.ofText? text.toList
  let (node, rest) ← readDocument tokens
  if rest.dropWhile (· = .documentEnd) = [.streamEnd] then some node else none

end Node

end Conformance.Yaml
