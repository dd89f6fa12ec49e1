import TaskCatalog.Yaml.Tag
import TaskCatalog.Yaml.Token

/-!
The nodes of a metadata document: scalars, sequences and mappings, each under its tag. An alias
stands for the node of its anchor; inside that node it stands for the node around it.
-/

namespace TaskCatalog.Yaml

open Text

inductive Node where
  | scalar (tag : Tag) (text : Text)
  | sequence (tag : Tag) (items : List Node)
  | mapping (tag : Tag) (entries : List (Node × Node))
  | again

instance : Inhabited Node := ⟨.again⟩

def Node.empty : Node := .scalar (.known .null) []

/-- What has been read of a document: the tokens ahead, and the anchors so far, open while inside their node. -/
structure Composer where
  tokens : List Token
  fault : Fault
  handles : List (Text × Text)
  anchors : List (Text × Option Node)

namespace Composer

def peek (c : Composer) : Except Fault Token :=
  match c.tokens with
  | t :: _ => .ok t
  | [] => .error c.fault

def next (c : Composer) : Composer := { c with tokens := c.tokens.drop 1 }

def defaultHandles : List (Text × Text) := [("!", "!"), ("!!", Tag.standard)]

def directives (seen : List (Text × Text)) (version : Bool) :
    List Token → Except Fault (List (Text × Text) × List Token)
  | .version major :: rest =>
    if version ∨ major ≠ 1 then .error .malformed else directives seen true rest
  | .tagHandle handle expansion :: rest =>
    if (seen.lookup handle).isSome then .error .malformed
    else directives ((handle, expansion) :: seen) version rest
  | .directive :: rest => directives seen version rest
  | rest => .ok (seen, rest)

/-- The anchor and the tag before a node, in either order. -/
def properties (c : Composer) :
    Except Fault (Option Text × Option (Option Text × Text) × Composer) := do
  match ← c.peek with
  | .anchor name =>
    match ← c.next.peek with
    | .tag handle suffix => return (some name, some (handle, suffix), c.next.next)
    | _ => return (some name, none, c.next)
  | .tag handle suffix =>
    match ← c.next.peek with
    | .anchor name => return (some name, some (handle, suffix), c.next.next)
    | _ => return (none, some (handle, suffix), c.next)
  | _ => return (none, none, c)

def expand (c : Composer) : Option (Option Text × Text) → Except Fault (Option Text)
  | none => .ok none
  | some (none, suffix) => .ok (some suffix)
  | some (some handle, suffix) =>
    match c.handles.lookup handle with
    | some expansion => .ok (some (expansion ++ suffix))
    | none => .error .malformed

def openTag : Text := "!"

def scalarTag (tag : Option Text) (plain : Bool) (text : Text) : Tag :=
  match tag with
  | none => if plain then Tag.ofSpelling text else .known .text
  | some tag => if tag = openTag then Tag.ofSpelling text else Tag.ofText tag

def collectionTag (tag : Option Text) (kind : Kind) : Tag :=
  match tag with
  | none => .known kind
  | some tag => if tag = openTag then .known kind else Tag.ofText tag

def bind (c : Composer) (anchor : Option Text) (n : Option Node) : Composer :=
  match anchor with
  | some name => { c with anchors := (name, n) :: c.anchors }
  | none => c

def isBlockEntryEnd : Token → Bool
  | .blockEntry | .blockEnd => true
  | _ => false

def isPlainEntryEnd : Token → Bool
  | .blockEntry | .key | .value | .blockEnd => true
  | _ => false

def isBlockFieldEnd : Token → Bool
  | .key | .value | .blockEnd => true
  | _ => false

def isFlowEnd (close : Token) (t : Token) : Bool := t == .flowEntry || t == close

mutual

/-- A node. `inBlock` allows a block collection, `flat` a sequence that is not indented. -/
def node : Nat → (inBlock flat : Bool) → Composer → Except Fault (Node × Composer)
  | 0, _, _, _ => .error .malformed
  | fuel + 1, inBlock, flat, c => do
    match ← c.peek with
    | .alias name =>
      match c.anchors.lookup name with
      | some (some n) => return (n, c.next)
      | some none => return (.again, c.next)
      | none => throw .malformed
    | _ =>
      let (anchor, property, c) ← properties c
      let tag ← c.expand property
      let first ← c.peek
      if anchor.any fun name => (c.anchors.lookup name).isSome then throw .malformed
      let inside := c.next.bind anchor none
      let (n, c) ← match first with
        | .scalar text plain => pure (.scalar (scalarTag tag plain text) text, c.next)
        | .flowSequence => do
          let (items, c) ← flowItems fuel true inside
          pure (.sequence (collectionTag tag .sequence) items, c)
        | .flowMapping => do
          let (entries, c) ← flowFields fuel true inside
          pure (.mapping (collectionTag tag .mapping) entries, c)
        | .blockSequence =>
          if inBlock then do
            let (items, c) ← blockItems fuel inside
            pure (.sequence (collectionTag tag .sequence) items, c)
          else throw .malformed
        | .blockMapping =>
          if inBlock then do
            let (entries, c) ← blockFields fuel inside
            pure (.mapping (collectionTag tag .mapping) entries, c)
          else throw .malformed
        | .blockEntry =>
          if flat then do
            let (items, c) ← plainItems fuel (c.bind anchor none)
            pure (.sequence (collectionTag tag .sequence) items, c)
          else emptyNode anchor tag c
        | _ => emptyNode anchor tag c
      return (n, c.bind anchor (some n))

def emptyNode (anchor tag : Option Text) (c : Composer) : Except Fault (Node × Composer) :=
  if anchor.isSome || tag.isSome then .ok (.scalar (scalarTag tag true []) [], c) else .error .malformed

/-- A node, unless the collection goes on without one. -/
def nodeUnless : Nat → (ends : Token → Bool) → (inBlock flat : Bool) → Composer → Except Fault (Node × Composer)
  | 0, _, _, _, _ => .error .malformed
  | fuel + 1, ends, inBlock, flat, c => do
    if ends (← c.peek) then return (.empty, c) else node fuel inBlock flat c

def blockItems : Nat → Composer → Except Fault (List Node × Composer)
  | 0, _ => .error .malformed
  | fuel + 1, c => do
    match ← c.peek with
    | .blockEntry =>
      let (item, c) ← nodeUnless fuel isBlockEntryEnd true false c.next
      let (items, c) ← blockItems fuel c
      return (item :: items, c)
    | .blockEnd => return ([], c.next)
    | _ => throw .malformed

def plainItems : Nat → Composer → Except Fault (List Node × Composer)
  | 0, _ => .error .malformed
  | fuel + 1, c => do
    match ← c.peek with
    | .blockEntry =>
      let (item, c) ← nodeUnless fuel isPlainEntryEnd true false c.next
      let (items, c) ← plainItems fuel c
      return (item :: items, c)
    | _ => return ([], c)

def blockFields : Nat → Composer → Except Fault (List (Node × Node) × Composer)
  | 0, _ => .error .malformed
  | fuel + 1, c => do
    match ← c.peek with
    | .key =>
      let (key, c) ← nodeUnless fuel isBlockFieldEnd true true c.next
      let (value, c) ← match ← c.peek with
        | .value => nodeUnless fuel isBlockFieldEnd true true c.next
        | _ => pure (Node.empty, c)
      let (fields, c) ← blockFields fuel c
      return ((key, value) :: fields, c)
    | .blockEnd => return ([], c.next)
    | _ => throw .malformed

/-- The key of a flow pair and its value; `close` ends the collection around it. -/
def flowPair : Nat → (close : Token) → Composer → Except Fault ((Node × Node) × Composer)
  | 0, _, _ => .error .malformed
  | fuel + 1, close, c => do
    let (key, c) ← nodeUnless fuel (fun t => t == .value || isFlowEnd close t) false false c
    let (value, c) ← match ← c.peek with
      | .value => nodeUnless fuel (isFlowEnd close) false false c.next
      | _ => pure (Node.empty, c)
    return ((key, value), c)

def flowItems : Nat → (first : Bool) → Composer → Except Fault (List Node × Composer)
  | 0, _, _ => .error .malformed
  | fuel + 1, first, c => do
    if (← c.peek) == .flowSequenceEnd then return ([], c.next)
    let c ← if first then pure c else if (← c.peek) == .flowEntry then pure c.next else throw .malformed
    match ← c.peek with
    | .flowSequenceEnd => return ([], c.next)
    | .key =>
      let (pair, c) ← flowPair fuel .flowSequenceEnd c.next
      let (items, c) ← flowItems fuel false c
      return (.mapping (.known .mapping) [pair] :: items, c)
    | _ =>
      let (item, c) ← node fuel false false c
      let (items, c) ← flowItems fuel false c
      return (item :: items, c)

def flowFields : Nat → (first : Bool) → Composer → Except Fault (List (Node × Node) × Composer)
  | 0, _, _ => .error .malformed
  | fuel + 1, first, c => do
    if (← c.peek) == .flowMappingEnd then return ([], c.next)
    let c ← if first then pure c else if (← c.peek) == .flowEntry then pure c.next else throw .malformed
    match ← c.peek with
    | .flowMappingEnd => return ([], c.next)
    | .key =>
      let (pair, c) ← flowPair fuel .flowMappingEnd c.next
      let (fields, c) ← flowFields fuel false c
      return (pair :: fields, c)
    | _ =>
      let (key, c) ← node fuel false false c
      let (fields, c) ← flowFields fuel false c
      return ((key, .empty) :: fields, c)

end

/-- The marks that may stand between the end of a document and the end of the stream. -/
def endOfStream (c : Composer) : List Token → Except Fault Unit
  | .documentEnd :: rest => endOfStream c rest
  | [.streamEnd] => .ok ()
  | rest => do
    match (← directives [] false rest).2 with
    | [] => .error c.fault
    | _ => .error .malformed

def isDocumentEdge : Token → Bool
  | .version _ | .tagHandle .. | .directive | .documentStart | .documentEnd | .streamEnd => true
  | _ => false

/-- The only document of a stream; a stream may hold none. -/
def document (c : Composer) : Except Fault (Option Node) := do
  let fuel := 4 * c.tokens.length + 8
  match ← c.peek with
  | .streamEnd => return none
  | .version _ | .tagHandle .. | .directive | .documentStart =>
    let (handles, rest) ← directives [] false c.tokens
    let c := { c with tokens := rest, handles := handles ++ defaultHandles }
    match ← c.peek with
    | .documentStart =>
      let (n, c) ← nodeUnless fuel isDocumentEdge true false c.next
      endOfStream c c.tokens
      return some n
    | _ => throw .malformed
  | _ =>
    let (n, c) ← node fuel true false { c with handles := defaultHandles }
    endOfStream c c.tokens
    return some n

end Composer

/-- The root of the only document in a text, if there is a document. -/
def Node.ofChars (text : List Char) : Except Fault (Option Node) :=
  let ts := Tokens.ofChars text
  Composer.document ⟨ts.tokens, ts.fault.getD .malformed, [], []⟩

end TaskCatalog.Yaml
