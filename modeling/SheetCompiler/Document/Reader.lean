import SheetCompiler.Document.Decoder
import SheetCompiler.Document.Draft
import SheetCompiler.Document.Lexer

/-!
# Reading documents

The grammar of documents over their tokens. An anchored node can be referred to by name further on.
An anchor is known by the number of other names before it, and the node that started last under a
number is the one that all references to this number mean, wherever they stand.
-/

namespace SheetCompiler.Document

namespace Assembly

/-- The tokens that are left, and what names and handles mean so far. -/
structure State where
  tokens : List Token
  /-- The tag handles and what they stand for. -/
  handles : List (String × TagText) := []
  /-- The names of anchors and their numbers, each name once. -/
  anchors : List (String × Nat) := []
  /-- The number of the anchor of every anchored node, the one that started last first. -/
  started : List Nat := []
  /-- The complete ones among these nodes, by how many started before them. -/
  drafts : List (Nat × Draft) := []

end Assembly

/-- Building nodes from tokens. -/
abbrev Assembly := StateT Assembly.State (Except Fault)

namespace Assembly

/-- The next token. -/
def peek : Assembly (Option Token) :=
  return (← get).tokens.head?

/-- Passes over the next token. -/
def skip : Assembly Unit :=
  modify fun s => { s with tokens := s.tokens.drop 1 }

/-- Passes over the next token if it is `t`; tells whether it was. -/
def skipIf (t : Token) : Assembly Bool := do
  if (← peek) == some t then
    skip
    return true
  return false

/-- The next token is one of `ts`. -/
def atAny (ts : List Token) : Assembly Bool :=
  return (← peek).any ts.contains

/-- What the tags of the common kinds of scalars start with. -/
def coreUri : List Char :=
  "tag:yaml.org,2002:".toList

/-- The meaning of a tag in full. One that starts with an exclamation mark is local to the
document. -/
def tagOf (text : TagText) : Tag :=
  match text with
  | some '!' :: name => match name.mapM id with
    | some cs => .named (String.ofList cs)
    | none => .nameless
  | _ =>
    let cs := text.filterMap id
    if text.all Option.isSome && coreUri.isPrefixOf cs then
      .core (String.ofList (cs.drop coreUri.length))
    else .foreign (String.ofList cs)

/-- What a tag means under the handles in force. -/
def resolveTag (handle : String) (name : TagText) : Assembly Tag := do
  if handle.isEmpty then return tagOf name
  match (← get).handles.lookup handle with
  | some uri => return tagOf (uri ++ name)
  | none =>
    if handle == "!" then return tagOf (some '!' :: name)
    if handle == "!!" then return tagOf (coreUri.map some ++ name)
    throw .tag

/-- The anchor at the next token. -/
def takeAnchor : Assembly (Option String) := do
  match ← peek with
  | some (.anchor name) =>
    skip
    return some name
  | _ => return none

/-- The tag at the next token. -/
def takeTag : Assembly (Option Tag) := do
  match ← peek with
  | some (.tag handle name) =>
    skip
    return some (← resolveTag handle name)
  | _ => return none

/-- The anchor and the tag of a node, in either order. -/
def properties : Assembly (Option String × Option Tag) := do
  match ← takeAnchor with
  | some name => return (some name, ← takeTag)
  | none =>
    let tag ← takeTag
    if tag.isSome then return (← takeAnchor, tag) else return (none, none)

/-- A reference by name. -/
def aliased (name : String) : Assembly Draft := do
  match (← get).anchors.lookup name with
  | none => throw (.unknownAnchor name)
  | some anchor => return .reference anchor

/-- A name is given to the node that starts here; tells how many named nodes started before. -/
def startAnchor (name : String) : Assembly Nat := do
  let s ← get
  let anchor := s.anchors.length
  let others := s.anchors.filter (·.1 != name)
  set { s with anchors := (name, anchor) :: others, started := anchor :: s.started }
  return s.started.length

/-- What `build` gives, under an anchor if there is one. -/
def underAnchor (name : Option String) (build : Assembly Draft) : Assembly Draft := do
  match name with
  | none => build
  | some name =>
    let before ← startAnchor name
    let draft ← build
    modify fun s => { s with drafts := (before, draft) :: s.drafts }
    return draft

/-- The anchored drafts by the numbers of their anchors, the one that started last first. -/
def anchored (s : State) : List (Nat × Draft) :=
  go s.started
where
  /-- The drafts of the nodes that started, given their anchors from the last one on. -/
  go : List Nat → List (Nat × Draft)
    | [] => []
    | anchor :: earlier =>
      ((s.drafts.lookup earlier.length).map fun draft => (anchor, draft)).toList ++ go earlier

mutual

/-- A node. `block` admits block collections, `indentless` also a sequence whose entries stand at
the column of the mapping around it. Each step down or along uses up one of the first argument. -/
def node : Nat → Bool → Bool → Assembly Draft
  | 0, _, _ => throw .contentExpected
  | fuel + 1, block, indentless => do
    if let some (.alias name) ← peek then
      skip
      return ← aliased name
    let (name, tag) ← properties
    underAnchor name do
      match ← peek with
      | some (.scalar style text) =>
        skip
        return .scalar tag style text
      | some .flowSequence =>
        skip
        return .sequence tag (← flowItems fuel true)
      | some .flowMapping =>
        skip
        return .mapping tag (← flowEntries fuel true)
      | token =>
        if block && token == some .blockSequence then
          skip
          return .sequence tag (← blockItems fuel)
        else if block && token == some .blockMapping then
          skip
          return .mapping tag (← blockEntries fuel)
        else if indentless && token == some .blockEntry then
          return .sequence tag (← indentlessItems fuel)
        else if name.isSome || tag.isSome then
          return .scalar tag .plain ""
        else
          throw .contentExpected

/-- A node, or a missing value before one of the tokens `stops`. -/
def nodeUnless : Nat → List Token → Bool → Bool → Assembly Draft
  | 0, _, _, _ => throw .contentExpected
  | fuel + 1, stops, block, indentless => do
    if ← atAny stops then return .missing else node fuel block indentless

/-- The items of a block sequence. -/
def blockItems : Nat → Assembly (List Draft)
  | 0 => throw .entryExpected
  | fuel + 1 => do
    if ← skipIf .blockEntry then
      let item ← nodeUnless fuel [.blockEntry, .blockEnd] true false
      return item :: (← blockItems fuel)
    else if ← skipIf .blockEnd then return []
    else throw .entryExpected

/-- The items of a sequence at the column of the mapping around it. -/
def indentlessItems : Nat → Assembly (List Draft)
  | 0 => throw .entryExpected
  | fuel + 1 => do
    if ← skipIf .blockEntry then
      let item ← nodeUnless fuel [.blockEntry, .key, .value, .blockEnd] true false
      return item :: (← indentlessItems fuel)
    else return []

/-- The entries of a block mapping. -/
def blockEntries : Nat → Assembly (List (Draft × Draft))
  | 0 => throw .keyExpected
  | fuel + 1 => do
    if ← skipIf .blockEnd then return []
    if !(← skipIf .key) then throw .keyExpected
    let key ← nodeUnless fuel [.key, .value, .blockEnd] true true
    let value ←
      if ← skipIf .value then nodeUnless fuel [.key, .value, .blockEnd] true true
      else pure .missing
    return (key, value) :: (← blockEntries fuel)

/-- The items between square brackets. A single pair may stand for a mapping. -/
def flowItems : Nat → Bool → Assembly (List Draft)
  | 0, _ => throw .separatorExpected
  | fuel + 1, first => do
    if ← skipIf .flowSequenceEnd then return []
    if !first then
      if !(← skipIf .flowEntry) then throw .separatorExpected
      if ← skipIf .flowSequenceEnd then return []
    let item ←
      if ← skipIf .key then do
        let key ←
          if ← atAny [.value, .flowEntry, .flowSequenceEnd] then do
            skip
            pure .missing
          else node fuel false false
        let value ←
          if ← skipIf .value then nodeUnless fuel [.flowEntry, .flowSequenceEnd] false false
          else pure .missing
        pure (.mapping none [(key, value)])
      else node fuel false false
    return item :: (← flowItems fuel false)

/-- The entries between braces. -/
def flowEntries : Nat → Bool → Assembly (List (Draft × Draft))
  | 0, _ => throw .separatorExpected
  | fuel + 1, first => do
    if ← skipIf .flowMappingEnd then return []
    if !first then
      if !(← skipIf .flowEntry) then throw .separatorExpected
      if ← skipIf .flowMappingEnd then return []
    let entry ←
      if ← skipIf .key then do
        let key ← nodeUnless fuel [.value, .flowEntry, .flowMappingEnd] false false
        let value ←
          if ← skipIf .value then nodeUnless fuel [.flowEntry, .flowMappingEnd] false false
          else pure .missing
        pure (key, value)
      else do
        let key ← node fuel false false
        pure (key, .missing)
    return entry :: (← flowEntries fuel false)

end

/-- The directives before a document. Only the first two versions are known, and nothing is said
twice. -/
def directives (versioned : Bool) : List Token → Assembly Unit
  | .version major minor :: rest => do
    if versioned || major != 1 || (minor != 1 && minor != 2) then throw .directive
    skip
    directives true rest
  | .handle name uri :: rest => do
    if ((← get).handles.lookup name).isSome then throw .directive
    skip
    modify fun s => { s with handles := (name, uri) :: s.handles }
    directives versioned rest
  | _ => pure ()

/-- The one document of a text; a text without any counts as a missing value. -/
def document : Assembly Draft := do
  let tokens := (← get).tokens
  -- Every token is passed at most once, with at most two steps down before it.
  let fuel := 2 * tokens.length + 2
  let content ← match tokens with
    | [] => pure .missing
    | .version .. :: _ | .handle .. :: _ | .documentStart :: _ => do
      directives false tokens
      if !(← skipIf .documentStart) then throw .documentStartExpected
      match ← peek with
      | none | some (.version ..) | some (.handle ..) | some .documentStart | some .documentEnd =>
        pure .missing
      | _ => node fuel true false
    | _ => node fuel true false
  match (← get).tokens.dropWhile (· == .documentEnd) with
  | [] => return content
  | .version .. :: _ | .handle .. :: _ | .documentStart :: _ => throw .severalDocuments
  | _ => throw .documentStartExpected

end Assembly

/-- Collections may be nested this deep. -/
def depthLimit : Nat := 128

/-- For each scalar, reference or end of a collection in a document, so many references may be
followed. -/
def referenceRatio : Nat := 100

/-- The document of a text, and what reading it may use up. -/
def Node.ofText (text : String) : Except Fault (Node × Limits) := do
  let (draft, s) ← Assembly.document.run { tokens := ← tokenize text }
  let limits := { depth := some depthLimit, references := some (referenceRatio * draft.size) }
  return (draft.link (Assembly.anchored s), limits)

/-- The value that a document's text stands for. -/
def decodeText {α : Type} (decode : Node → Decoder α) (text : String) : Except Fault α := do
  let (node, limits) ← Node.ofText text
  return (← (decode node).run limits).1

end SheetCompiler.Document
