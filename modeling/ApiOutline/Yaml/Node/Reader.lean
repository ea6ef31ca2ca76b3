/-
From tokens to nodes.

A text is one document at most. The reader goes through its tokens from left to right and decides
by the next one what is to come. Nodes are numbered as they begin, so that an anchor can be used
inside its own node; no anchor can be given twice. Tokens may break off at a defect, which is a
fault only if the reader gets that far.
-/
import ApiOutline.Yaml.Node
import ApiOutline.Yaml.Token.Lexer

set_option autoImplicit false

namespace ApiOutline.Yaml

/-- What is left to be read, and what has been met. -/
structure NodeReader where
  tokens : List Placed
  /-- What is wrong behind the last token, if something is. -/
  defect : Option Malformed
  /-- The nodes so far. -/
  nodes : Array Node
  /-- Anchors and the numbers of their nodes. -/
  anchors : List (String × Nat)
  /-- What the handles of tags stand for. -/
  handles : List (String × String)
  /-- How many more nodes may stand inside each other. -/
  room : Nat

namespace NodeReader

/-- A computation on what is left. -/
abbrev M := StateT NodeReader Reading

/-- The next token. -/
def peek : M Token := do
  let s ← get
  match s.tokens, s.defect with
  | t :: _, _ => return t.token
  | [], some m => throw m
  | [], none => return .textEnd

/-- Past the next token. -/
def advance : M Unit :=
  modify fun s => { s with tokens := s.tokens.drop 1 }

/-- Failure at the next token. -/
def fail {α : Type} (d : Defect) : M α := do
  throw ⟨d, (← get).tokens.head?.map Placed.place⟩

/-- Past a token, if it is the next one. -/
def skipIf (t : Token) : M Bool := do
  if (← peek) == t then
    advance
    return true
  else return false

/-! ## Anchors and tags -/

/-- An anchor and a tag, in either order. -/
structure Properties where
  anchor : Option String
  tag : Option (Option String × String)

def readProperties : M Properties := do
  match ← peek with
  | .anchor name =>
    advance
    match ← peek with
    | .tag handle rest =>
      advance
      return ⟨some name, some (handle, rest)⟩
    | _ => return ⟨some name, none⟩
  | .tag handle rest =>
    advance
    match ← peek with
    | .anchor name =>
      advance
      return ⟨some name, some (handle, rest)⟩
    | _ => return ⟨none, some (handle, rest)⟩
  | _ => return ⟨none, none⟩

/-- A tag in full; the one that says nothing counts as none. -/
def fullTag : Option (Option String × String) → M (Option String)
  | none => return none
  | some (none, rest) => return if rest == "!" then none else some rest
  | some (some handle, rest) => do
    match (← get).handles.lookup handle with
    | some lead => return some (lead ++ rest)
    | none => fail .unknownHandle

/-- The node of an anchor. -/
def nodeOfAnchor (name : String) : M Nat := do
  match (← get).anchors.lookup name with
  | none => fail .unknownAnchor
  | some n => return n

/-! ## Numbers of nodes -/

/-- A new node, which an anchor may stand for. -/
def newNode (anchor : Option String) (n : Node) : M Nat := do
  let s ← get
  let number := s.nodes.size
  let s := { s with nodes := s.nodes.push n }
  match anchor with
  | none => set s
  | some name =>
    if (s.anchors.lookup name).isSome then fail .repeatedAnchor
    set { s with anchors := (name, number) :: s.anchors }
  return number

/-- A node that holds nothing. -/
def emptyNode : M Nat := newNode none .empty

/-- A node and what it turns out to hold. -/
def fillNode (number : Nat) (kind : Kind) (content : Content) : M Nat := do
  modify fun s => { s with nodes := s.nodes.setIfInBounds number ⟨kind, content⟩ }
  return number

/-! ## Nodes -/

/-- How many lists and mappings may stand inside each other. -/
def depthLimit : Nat := 490

/-- What stands inside a node. -/
def inside {α : Type} (part : M α) : M α := do
  let s ← get
  if s.room = 0 then fail .tooDeep
  set { s with room := s.room - 1 }
  let r ← part
  modify fun s => { s with room := s.room + 1 }
  return r

def kindOr (other : Kind) (tag : Option String) : Kind :=
  (tag.map Kind.ofTag).getD other

/-- May a node be left out in front of this token? -/
def endsBlockItem : Token → Bool
  | .blockEntry | .blockEnd => true
  | _ => false

def endsPlainItem : Token → Bool
  | .blockEntry | .key | .value | .blockEnd => true
  | _ => false

def endsBlockPart : Token → Bool
  | .key | .value | .blockEnd => true
  | _ => false

def endsFlowPart (close : Token) (t : Token) : Bool :=
  t == .flowEntry || t == close

mutual

/-- A node. `inBlock` tells whether it may be a block, `plainList` whether it may be a list whose
hyphens stand at the column of the surrounding mapping. -/
def readNode (inBlock plainList : Bool) : (fuel : Nat) → M Nat
  | 0 => fail .unexpectedToken
  | fuel + 1 => do
    match ← peek with
    | .reference name =>
      advance
      nodeOfAnchor name
    | _ =>
      let p ← readProperties
      let tag ← fullTag p.tag
      readContent inBlock plainList tag p fuel

/-- A node behind its anchor and tag. -/
def readContent (inBlock plainList : Bool) (tag : Option String) (p : Properties) :
    (fuel : Nat) → M Nat
  | 0 => fail .unexpectedToken
  | fuel + 1 => do
    match ← peek, inBlock with
    | .scalar text plain, _ =>
      advance
      let plain := plain || p.tag.isSome
      newNode p.anchor ⟨kindOr (if plain then .ofPlain text else .text) tag, .text text⟩
    | .flowListStart, _ =>
      advance
      let n ← newNode p.anchor .empty
      fillNode n (kindOr .list tag) (.list (← inside (readFlowItems true [] fuel)))
    | .flowMappingStart, _ =>
      advance
      let n ← newNode p.anchor .empty
      fillNode n (kindOr .mapping tag) (.mapping (← inside (readFlowEntries true [] fuel)))
    | .blockListStart, true =>
      advance
      let n ← newNode p.anchor .empty
      fillNode n (kindOr .list tag) (.list (← inside (readBlockItems [] fuel)))
    | .blockMappingStart, true =>
      advance
      let n ← newNode p.anchor .empty
      fillNode n (kindOr .mapping tag) (.mapping (← inside (readBlockEntries [] fuel)))
    | t, _ =>
      if plainList && t == .blockEntry then
        let n ← newNode p.anchor .empty
        fillNode n (kindOr .list tag) (.list (← inside (readPlainItems [] fuel)))
      else if p.anchor.isSome || p.tag.isSome then
        newNode p.anchor ⟨kindOr .null tag, .text ""⟩
      else fail .unexpectedToken

/-- The items of an indented block list; `done` are those before, last one first. -/
def readBlockItems (done : List Nat) : (fuel : Nat) → M (List Nat)
  | 0 => fail .unexpectedToken
  | fuel + 1 => do
    if ← skipIf .blockEntry then
      let n ← if endsBlockItem (← peek) then emptyNode else readNode true false fuel
      readBlockItems (n :: done) fuel
    else if ← skipIf .blockEnd then return done.reverse
    else fail .unexpectedToken

/-- The items of a list that is not indented. -/
def readPlainItems (done : List Nat) : (fuel : Nat) → M (List Nat)
  | 0 => fail .unexpectedToken
  | fuel + 1 => do
    if ← skipIf .blockEntry then
      let n ← if endsPlainItem (← peek) then emptyNode else readNode true false fuel
      readPlainItems (n :: done) fuel
    else return done.reverse

/-- The entries of a block mapping. Key or value may be missing. -/
def readBlockEntries (done : List (Nat × Nat)) : (fuel : Nat) → M (List (Nat × Nat))
  | 0 => fail .unexpectedToken
  | fuel + 1 => do
    if ← skipIf .key then
      let k ← if endsBlockPart (← peek) then emptyNode else readNode true true fuel
      let v ← readBlockValue fuel
      readBlockEntries ((k, v) :: done) fuel
    else if ← skipIf .blockEnd then return done.reverse
    else fail .unexpectedToken

def readBlockValue : (fuel : Nat) → M Nat
  | 0 => fail .unexpectedToken
  | fuel + 1 => do
    if ← skipIf .value then
      if endsBlockPart (← peek) then emptyNode else readNode true true fuel
    else emptyNode

/-- The items of a list in brackets. An item may be a mapping of one entry without braces. -/
def readFlowItems (first : Bool) (done : List Nat) : (fuel : Nat) → M (List Nat)
  | 0 => fail .unexpectedToken
  | fuel + 1 => do
    if ← skipIf .flowListEnd then return done.reverse
    if !first then
      if !(← skipIf .flowEntry) then fail .unexpectedToken
    if ← skipIf .flowListEnd then return done.reverse
    if ← skipIf .key then
      let n ← newNode none .empty
      let k ← inside (do
        let t ← peek
        if t == .value || endsFlowPart .flowListEnd t then emptyNode
        else readNode false false fuel)
      let v ← inside (readFlowValue .flowListEnd fuel)
      let n ← fillNode n .mapping (.mapping [(k, v)])
      readFlowItems false (n :: done) fuel
    else
      let n ← readNode false false fuel
      readFlowItems false (n :: done) fuel

/-- The entries of a mapping in braces. -/
def readFlowEntries (first : Bool) (done : List (Nat × Nat)) :
    (fuel : Nat) → M (List (Nat × Nat))
  | 0 => fail .unexpectedToken
  | fuel + 1 => do
    if ← skipIf .flowMappingEnd then return done.reverse
    if !first then
      if !(← skipIf .flowEntry) then fail .unexpectedToken
    if ← skipIf .flowMappingEnd then return done.reverse
    if ← skipIf .key then
      let k ← (do
        let t ← peek
        if t == .value || endsFlowPart .flowMappingEnd t then emptyNode
        else readNode false false fuel)
      let v ← readFlowValue .flowMappingEnd fuel
      readFlowEntries false ((k, v) :: done) fuel
    else
      let k ← readNode false false fuel
      readFlowEntries false ((k, ← emptyNode) :: done) fuel

def readFlowValue (close : Token) : (fuel : Nat) → M Nat
  | 0 => fail .unexpectedToken
  | fuel + 1 => do
    if ← skipIf .value then
      if endsFlowPart close (← peek) then emptyNode else readNode false false fuel
    else emptyNode

end

/-! ## Documents -/

/-- The handles that need no directive. -/
def commonHandles : List (String × String) :=
  [("!", "!"), ("!!", Kind.commonLead)]

/-- The directives in front of a document. -/
def readDirectives (versioned : Bool) (handles : List (String × String)) : (fuel : Nat) → M Unit
  | 0 => fail .unexpectedToken
  | fuel + 1 => do
    match ← peek with
    | .directive (.version major _) =>
      if versioned then fail .repeatedDirective
      if major != 1 then fail .unknownVersion
      advance
      readDirectives true handles fuel
    | .directive (.handle name lead) =>
      if (handles.lookup name).isSome then fail .repeatedDirective
      advance
      readDirectives versioned ((name, lead) :: handles) fuel
    | .directive (.other _) =>
      advance
      readDirectives versioned handles fuel
    | _ => modify fun s => { s with handles := handles ++ commonHandles }

/-- Behind the marks at the end of a document. -/
def skipDocumentEnds : (fuel : Nat) → M Unit
  | 0 => return
  | fuel + 1 => do
    if ← skipIf .documentEnd then skipDocumentEnds fuel

/-- The only document of a text. There may be none. -/
def readDocument (fuel : Nat) : M (Option Nat) := do
  let n? ← (do
    match ← peek with
    | .textEnd => return none
    | .directive _ | .documentStart =>
      readDirectives false [] fuel
      if !(← skipIf .documentStart) then fail .unexpectedToken
      match ← peek with
      | .directive _ | .documentStart | .documentEnd | .textEnd => return some (← emptyNode)
      | _ => return some (← readNode true false fuel)
    | _ => return some (← readNode true false fuel))
  skipDocumentEnds fuel
  if (← peek) == .textEnd then return n? else fail .severalDocuments

end NodeReader

/-- The document that tokens write. No node needs more steps than there are tokens in it, a
constant number of times. -/
def Document.ofTokens (scanned : Scanned) : Reading (Option Document) := do
  let s : NodeReader :=
    { tokens := scanned.tokens, defect := scanned.defect
      nodes := #[], anchors := [], handles := NodeReader.commonHandles
      room := NodeReader.depthLimit }
  let (root?, s) ← (NodeReader.readDocument (4 * scanned.tokens.length + 8)).run s
  return root?.map fun root => ⟨s.nodes, root⟩

end ApiOutline.Yaml
