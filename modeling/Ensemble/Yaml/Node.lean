/-
# YAML nodes

The tree that the tokens of a YAML text describe: scalars, lists and records, each perhaps with a
tag. An alias stands for the node with its anchor. The grammar follows the tokens from left to
right; strictly a record may also lack a key, and a text holds any number of documents.
-/

import Ensemble.Yaml.Token

namespace Ensemble.Yaml

/-- The kind of a node as written; the stem is what the handle stands for. -/
structure Tag where
  stem : String
  suffix : String
deriving DecidableEq, Repr

/-- A node of a document. -/
inductive Node where
  | scalar (text : String) (style : ScalarStyle) (tag : Option Tag)
  | list (items : List Node) (tag : Option Tag)
  | record (members : List (Node × Node)) (tag : Option Tag)
  /-- An alias for a node that holds it. -/
  | unfinished
deriving Repr, Inhabited

/-- An absent node. -/
def Node.absent : Node := .scalar "" .plain none

/-- The stem of the standard tags. -/
def standardStem : String := "tag:yaml.org,2002:"

/-- What was read of the nodes of a document. -/
structure Reading where
  strictness : Strictness
  tokens : List Token
  /-- What the handles of the document stand for. -/
  handles : List (String × String)
  /-- The number of the latest node with an anchor. -/
  anchors : List (String × Nat)
  /-- The finished nodes with an anchor. -/
  nodes : List (Nat × Node)

namespace Reading

/-- The reading behind the next token. -/
def skip (reading : Reading) : Reading :=
  { reading with tokens := reading.tokens.drop 1 }

/-- The tag with a handle. -/
def tag? (reading : Reading) (handle suffix : String) : Option Tag :=
  match reading.handles.lookup handle with
  | some stem => some ⟨stem, suffix⟩
  | none =>
    if handle = "!!" then some ⟨standardStem, suffix⟩
    else if 2 ≤ handle.length then none
    else some ⟨handle, suffix⟩

/-- Announce a node with an anchor. -/
def announce (reading : Reading) (name : String) : Reading :=
  { reading with anchors := (name, reading.anchors.length) :: reading.anchors }

/-- A node with a number is finished. -/
def finish (reading : Reading) (number : Option Nat) (node : Node) : Reading :=
  match number with
  | some number => { reading with nodes := (number, node) :: reading.nodes }
  | none => reading

/-- The node with an anchor. -/
def node? (reading : Reading) (name : String) : Option Node :=
  (reading.anchors.lookup name).map fun number =>
    (reading.nodes.lookup number).getD .unfinished

/-- Read the anchor and the tag in front of a node, in either order: the number of the anchor and
the tag. -/
def properties (reading : Reading) : Option (Option Nat × Option Tag × Reading) :=
  match reading.tokens with
  | .anchor name :: .tag handle suffix :: _ => do
    let tag ← reading.tag? handle suffix
    return (some reading.anchors.length, some tag, (reading.announce name).skip.skip)
  | .tag handle suffix :: .anchor name :: _ => do
    let tag ← reading.tag? handle suffix
    return (some reading.anchors.length, some tag, (reading.announce name).skip.skip)
  | .anchor name :: _ => some (some reading.anchors.length, none, (reading.announce name).skip)
  | .tag handle suffix :: _ => do return (none, some (← reading.tag? handle suffix), reading.skip)
  | _ => some (none, none, reading)

end Reading

/-- Where the value of a place is absent: before one of these tokens. -/
def isAbsentBefore (ends : List Token) (reading : Reading) : Bool :=
  match reading.tokens with
  | token :: _ => ends.contains token
  | [] => true

mutual

/-- Read a node. Blocks are read only where they are allowed, and only below a key may the items of
a list stand in the column of the record. -/
def readNode (allowsBlock allowsItems : Bool) : Nat → Reading → Option (Node × Reading)
  | 0, _ => none
  | fuel + 1, reading =>
    match reading.tokens with
    | .alias name :: _ => do return (← reading.node? name, reading.skip)
    | _ => do
      let (number, tag, reading) ← reading.properties
      let (node, reading) ←
        match reading.tokens with
        | .scalar text style :: _ => some (.scalar text style tag, reading.skip)
        | .openList :: _ => do
          let (items, reading) ← readFlowItems fuel reading.skip true
          some (.list items tag, reading)
        | .openRecord :: _ => do
          let (members, reading) ← readFlowMembers fuel reading.skip true
          some (.record members tag, reading)
        | .blockList :: _ =>
          if allowsBlock then do
            let (items, reading) ← readBlockItems fuel reading.skip
            some (.list items tag, reading)
          else if number.isSome || tag.isSome then some (.scalar "" .plain tag, reading)
          else none
        | .blockRecord :: _ =>
          if allowsBlock then do
            let (members, reading) ← readBlockMembers fuel reading.skip
            some (.record members tag, reading)
          else if number.isSome || tag.isSome then some (.scalar "" .plain tag, reading)
          else none
        | .item :: _ =>
          if allowsItems then do
            let (items, reading) ← readItems fuel reading
            some (.list items tag, reading)
          else if number.isSome || tag.isSome then some (.scalar "" .plain tag, reading)
          else none
        | _ =>
          if number.isSome || tag.isSome then some (.scalar "" .plain tag, reading) else none
      return (node, reading.finish number node)

/-- Read the items of a block. -/
def readBlockItems : Nat → Reading → Option (List Node × Reading)
  | 0, _ => none
  | fuel + 1, reading =>
    match reading.tokens with
    | .blockEnd :: _ => some ([], reading.skip)
    | .item :: _ => do
      let reading := reading.skip
      let (item, reading) ←
        if isAbsentBefore [.item, .blockEnd] reading then some (Node.absent, reading)
        else readNode true false fuel reading
      let (items, reading) ← readBlockItems fuel reading
      return (item :: items, reading)
    | _ => none

/-- Read items in the column of the record that holds the list. -/
def readItems : Nat → Reading → Option (List Node × Reading)
  | 0, _ => none
  | fuel + 1, reading =>
    match reading.tokens with
    | .item :: _ => do
      let reading := reading.skip
      let (item, reading) ←
        if isAbsentBefore [.item, .key, .value, .blockEnd] reading then some (Node.absent, reading)
        else readNode true false fuel reading
      let (items, reading) ← readItems fuel reading
      return (item :: items, reading)
    | _ => some ([], reading)

/-- Read the members of a block. -/
def readBlockMembers : Nat → Reading → Option (List (Node × Node) × Reading)
  | 0, _ => none
  | fuel + 1, reading =>
    match reading.tokens with
    | .blockEnd :: _ => some ([], reading.skip)
    | token :: _ => do
      let (key, reading) ←
        if token = .key then
          if isAbsentBefore [.key, .value, .blockEnd] reading.skip then
            some (Node.absent, reading.skip)
          else readNode true true fuel reading.skip
        else if token = .value ∧ reading.strictness = .strict then some (Node.absent, reading)
        else none
      let (value, reading) ←
        match reading.tokens with
        | .value :: _ =>
          if isAbsentBefore [.key, .value, .blockEnd] reading.skip then
            some (Node.absent, reading.skip)
          else readNode true true fuel reading.skip
        | _ => some (Node.absent, reading)
      let (members, reading) ← readBlockMembers fuel reading
      return ((key, value) :: members, reading)
    | [] => none

/-- Read the value of a member inside brackets, if there is one. -/
def readFlowValue : Nat → Reading → Option (Node × Reading)
  | 0, _ => none
  | fuel + 1, reading =>
    match reading.tokens with
    | .value :: _ =>
      if isAbsentBefore [.comma, .closeRecord, .closeList] reading.skip then
        some (Node.absent, reading.skip)
      else readNode false false fuel reading.skip
    | _ => some (Node.absent, reading)

/-- Read a member behind the mark of its key inside brackets. -/
def readFlowMember : Nat → Reading → Option ((Node × Node) × Reading)
  | 0, _ => none
  | fuel + 1, reading => do
    let (key, reading) ←
      if isAbsentBefore [.value, .comma, .closeRecord, .closeList] reading then
        some (Node.absent, reading)
      else readNode false false fuel reading
    let (value, reading) ← readFlowValue fuel reading
    return ((key, value), reading)

/-- Read the items between brackets. A member among them is a record of its own. -/
def readFlowItems : Nat → Reading → Bool → Option (List Node × Reading)
  | 0, _, _ => none
  | fuel + 1, reading, isFirst => do
    let reading ←
      if isFirst then some reading
      else
        match reading.tokens with
        | .comma :: _ => some reading.skip
        | .closeList :: _ => some reading
        | _ => none
    match reading.tokens with
    | .closeList :: _ => return ([], reading.skip)
    | token :: _ =>
      let (item, reading) ←
        if token = .key then do
          let (member, reading) ← readFlowMember fuel reading.skip
          some (.record [member] none, reading)
        else if token = .value ∧ reading.strictness = .strict then do
          let (value, reading) ← readFlowValue fuel reading
          some (.record [(Node.absent, value)] none, reading)
        else readNode false false fuel reading
      let (items, reading) ← readFlowItems fuel reading false
      return (item :: items, reading)
    | [] => none

/-- Read the members between brackets. A node without a colon is a key without a value. -/
def readFlowMembers : Nat → Reading → Bool → Option (List (Node × Node) × Reading)
  | 0, _, _ => none
  | fuel + 1, reading, isFirst => do
    let reading ←
      if isFirst then some reading
      else
        match reading.tokens with
        | .comma :: _ => some reading.skip
        | .closeRecord :: _ => some reading
        | _ => none
    match reading.tokens with
    | .closeRecord :: _ => return ([], reading.skip)
    | token :: _ =>
      let (member, reading) ←
        if token = .key then readFlowMember fuel reading.skip
        else if token = .value ∧ reading.strictness = .strict then do
          let (value, reading) ← readFlowValue fuel reading
          some ((Node.absent, value), reading)
        else do
          let (key, reading) ← readNode false false fuel reading
          some ((key, Node.absent), reading)
      let (members, reading) ← readFlowMembers fuel reading false
      return (member :: members, reading)
    | [] => none

end

/-- Read the directives of a document: each handle once and at most one version, which leniently
is 1.1 or 1.2. The flag says whether there is a version already. -/
def readDirectives (hasVersion : Bool) : Reading → List Token → Option Reading
  | reading, .version major minor :: rest =>
    if hasVersion || (reading.strictness = .lenient && !(major = 1 && (minor = 1 || minor = 2)))
    then none
    else readDirectives true { reading with tokens := rest } rest
  | reading, .handle name stem :: rest =>
    if (reading.handles.lookup name).isSome then none
    else readDirectives hasVersion
      { reading with tokens := rest, handles := (name, stem) :: reading.handles } rest
  | reading, .unknownDirective :: rest =>
    if (reading.handles.lookup "").isSome then none
    else readDirectives hasVersion
      { reading with tokens := rest, handles := ("", "") :: reading.handles } rest
  | reading, tokens => some { reading with tokens }

/-- Read the content of a document. -/
def readContent (fuel : Nat) (reading : Reading) : Option (Node × Reading) :=
  match reading.tokens with
  | [] => some (Node.absent, reading)
  | .documentStart :: _ => some (Node.absent, reading)
  | .documentEnd :: _ => some (Node.absent, reading)
  | .version _ _ :: _ => some (Node.absent, reading)
  | .handle _ _ :: _ => some (Node.absent, reading)
  | .unknownDirective :: _ => some (Node.absent, reading)
  | _ => readNode true false fuel reading

/-- Whether a token is a directive. -/
def Token.isDirective : Token → Bool
  | .version _ _ => true
  | .handle _ _ => true
  | .unknownDirective => true
  | _ => false

/-- Read the documents of a text. One without a mark at its start is allowed first, and strictly
behind the mark of an end; strictly, directives only follow such a mark too. -/
def readDocuments (strictness : Strictness) : Nat → List Token → Bool → Option (List Node)
  | 0, _, _ => none
  | fuel + 1, tokens, mayBeBare => do
    let tokens :=
      if mayBeBare ∧ strictness = .lenient then tokens else tokens.dropWhile (· = .documentEnd)
    match tokens with
    | [] => return []
    | token :: _ =>
      let empty : Reading := ⟨strictness, tokens, [], [], []⟩
      let reading ← readDirectives false empty tokens
      let isBare := mayBeBare && !token.isDirective && token != .documentStart
      let (node, reading) ←
        if isBare then readNode true false (4 * tokens.length + 8) reading
        else
          match reading.tokens with
          | .documentStart :: _ => readContent (4 * tokens.length + 8) reading.skip
          | _ => none
      let ended := reading.tokens.head? = some .documentEnd
      let beyond := if ended then reading.tokens.drop 1 else reading.tokens
      if strictness = .strict ∧ !ended ∧ (beyond.head?.any Token.isDirective) then none
      let nodes ← readDocuments strictness fuel beyond (ended && strictness = .strict)
      return node :: nodes

/-- The documents of a text, or `none` when it is malformed. -/
def documents? (strictness : Strictness) (chars : List Char) : Option (List Node) := do
  let tokens ← tokens? strictness chars
  readDocuments strictness (tokens.length + 1) tokens true

end Ensemble.Yaml
