import CasefileHub.Yaml.Token
/-!
# Nodes of YAML

The node of the one document in a text. Aliases stand for the node of the last anchor of their name.
A missing node is an empty plain scalar.
-/

namespace CasefileHub.Yaml

inductive Node where
  | scalar (text : String) (plain : Bool) (tag : Option String)
  | sequence (items : List Node)
  | mapping (entries : List (Node × Node))
deriving Repr, Inhabited

namespace Node

def missing : Node := .scalar "" true none

/-- The anchors so far, the last first. -/
abbrev Anchors := List (String × Node)

/-- A node with the anchors after it and the tokens that follow. -/
abbrev Found := Node × Anchors × List Token

/-- The anchor and the tag in front of a node, in any order. -/
def properties : List Token → Option String × Option String × List Token
  | .anchor a :: .tag t :: rest => (some a, some t, rest)
  | .tag t :: .anchor a :: rest => (some a, some t, rest)
  | .anchor a :: rest => (some a, none, rest)
  | .tag t :: rest => (none, some t, rest)
  | rest => (none, none, rest)

def anchored (anchor : Option String) (n : Node) (anchors : Anchors) : Anchors :=
  match anchor with
  | some a => (a, n) :: anchors
  | none => anchors

mutual

/-- A node: in a block or not, and where a sequence may follow without further indentation. -/
def node? (block indentless : Bool) : Nat → Anchors → List Token → Option Found
  | 0, _, _ => none
  | fuel + 1, anchors, tokens =>
    match tokens with
    | .alias name :: rest => (anchors.lookup name).map fun n => (n, anchors, rest)
    | _ =>
      let (anchor, tag, rest) := properties tokens
      let finish := fun (found : Found) =>
        let (n, anchors, rest) := found
        some (n, anchored anchor n anchors, rest)
      match rest with
      | .scalar text plain :: rest => finish (.scalar text plain tag, anchors, rest)
      | .flowSequenceStart :: rest =>
        (flowItems? true fuel anchors rest []).bind finish
      | .flowMappingStart :: rest =>
        (flowEntries? true fuel anchors rest []).bind finish
      | .blockEntry :: _ =>
        if indentless then (indentlessItems? fuel anchors rest []).bind finish
        else if anchor.isSome || tag.isSome then finish (.scalar "" true tag, anchors, rest)
        else none
      | .blockSequenceStart :: rest' =>
        if block then (blockItems? fuel anchors rest' []).bind finish
        else if anchor.isSome || tag.isSome then finish (.scalar "" true tag, anchors, rest)
        else none
      | .blockMappingStart :: rest' =>
        if block then (blockEntries? fuel anchors rest' []).bind finish
        else if anchor.isSome || tag.isSome then finish (.scalar "" true tag, anchors, rest)
        else none
      | _ =>
        if anchor.isSome || tag.isSome then finish (.scalar "" true tag, anchors, rest) else none

def blockItems? : Nat → Anchors → List Token → List Node → Option Found
  | 0, _, _, _ => none
  | fuel + 1, anchors, tokens, items =>
    match tokens with
    | .blockEntry :: .blockEntry :: rest =>
      blockItems? fuel anchors (.blockEntry :: rest) (missing :: items)
    | .blockEntry :: .blockEnd :: rest => some (.sequence (missing :: items).reverse, anchors, rest)
    | .blockEntry :: rest =>
      match node? true false fuel anchors rest with
      | some (n, anchors, rest) => blockItems? fuel anchors rest (n :: items)
      | none => none
    | .blockEnd :: rest => some (.sequence items.reverse, anchors, rest)
    | _ => none

def indentlessItems? : Nat → Anchors → List Token → List Node → Option Found
  | 0, _, _, _ => none
  | fuel + 1, anchors, tokens, items =>
    match tokens with
    | .blockEntry :: rest =>
      match rest with
      | .blockEntry :: _ | .key :: _ | .value :: _ | .blockEnd :: _ =>
        indentlessItems? fuel anchors rest (missing :: items)
      | _ =>
        match node? true false fuel anchors rest with
        | some (n, anchors, rest) => indentlessItems? fuel anchors rest (n :: items)
        | none => none
    | rest => some (.sequence items.reverse, anchors, rest)

/-- A node of a block mapping after its key or value mark, which may be missing. -/
def blockPart? : Nat → Anchors → List Token → Option Found
  | 0, _, _ => none
  | fuel + 1, anchors, tokens =>
    match tokens with
    | .key :: _ | .value :: _ | .blockEnd :: _ => some (missing, anchors, tokens)
    | _ => node? true true fuel anchors tokens

def blockEntries? : Nat → Anchors → List Token → List (Node × Node) → Option Found
  | 0, _, _, _ => none
  | fuel + 1, anchors, tokens, entries =>
    match tokens with
    | .blockEnd :: rest => some (.mapping entries.reverse, anchors, rest)
    | .key :: rest =>
      match blockPart? fuel anchors rest with
      | none => none
      | some (k, anchors, .value :: rest) =>
        match blockPart? fuel anchors rest with
        | none => none
        | some (v, anchors, rest) => blockEntries? fuel anchors rest ((k, v) :: entries)
      | some (k, anchors, rest) => blockEntries? fuel anchors rest ((k, missing) :: entries)
    | _ => none

/-- A node of a flow collection, which may be missing in front of some marks. -/
def flowPart? : Nat → Anchors → List Token → Option Found
  | 0, _, _ => none
  | fuel + 1, anchors, tokens =>
    match tokens with
    | .value :: _ | .flowEntry :: _ | .flowSequenceEnd :: _ | .flowMappingEnd :: _ =>
      some (missing, anchors, tokens)
    | _ => node? false false fuel anchors tokens

/-- The value after a key of a flow collection, if there is one. -/
def flowValue? : Nat → Anchors → List Token → Option Found
  | 0, _, _ => none
  | fuel + 1, anchors, tokens =>
    match tokens with
    | .value :: rest => flowPart? fuel anchors rest
    | _ => some (missing, anchors, tokens)

def flowItems? (first : Bool) : Nat → Anchors → List Token → List Node → Option Found
  | 0, _, _, _ => none
  | fuel + 1, anchors, tokens, items =>
    match tokens with
    | .flowSequenceEnd :: rest => some (.sequence items.reverse, anchors, rest)
    | _ =>
      let tokens? := if first then some tokens else
        match tokens with
        | .flowEntry :: rest => some rest
        | _ => none
      match tokens? with
      | none => none
      | some (.flowSequenceEnd :: rest) => some (.sequence items.reverse, anchors, rest)
      | some (.key :: rest) =>
        match flowPart? fuel anchors rest with
        | none => none
        | some (k, anchors, rest) =>
          match flowValue? fuel anchors rest with
          | none => none
          | some (v, anchors, rest) =>
            flowItems? false fuel anchors rest (.mapping [(k, v)] :: items)
      | some rest =>
        match node? false false fuel anchors rest with
        | none => none
        | some (n, anchors, rest) => flowItems? false fuel anchors rest (n :: items)

def flowEntries? (first : Bool) : Nat → Anchors → List Token → List (Node × Node) → Option Found
  | 0, _, _, _ => none
  | fuel + 1, anchors, tokens, entries =>
    match tokens with
    | .flowMappingEnd :: rest => some (.mapping entries.reverse, anchors, rest)
    | _ =>
      let tokens? := if first then some tokens else
        match tokens with
        | .flowEntry :: rest => some rest
        | _ => none
      match tokens? with
      | none => none
      | some (.flowMappingEnd :: rest) => some (.mapping entries.reverse, anchors, rest)
      | some (.key :: rest) =>
        match flowPart? fuel anchors rest with
        | none => none
        | some (k, anchors, rest) =>
          match flowValue? fuel anchors rest with
          | none => none
          | some (v, anchors, rest) => flowEntries? false fuel anchors rest ((k, v) :: entries)
      | some rest =>
        match node? false false fuel anchors rest with
        | none => none
        | some (k, anchors, rest) =>
          flowEntries? false fuel anchors rest ((k, missing) :: entries)

end

/-- The content of a document, after its start. -/
def content? (fuel : Nat) (tokens : List Token) : Option (Node × List Token) :=
  match tokens with
  | [] | .directive :: _ | .documentStart :: _ | .documentEnd :: _ => some (missing, tokens)
  | _ => (node? true false fuel [] tokens).map fun (n, _, rest) => (n, rest)

/-- The one document of a text; an empty text has a missing node. -/
def document? (tokens : List Token) : Option Node := do
  let fuel := 4 * tokens.length + 4
  let tokens := tokens.dropWhile (· == .documentEnd)
  let (n, rest) ← match tokens with
    | [] => some (missing, [])
    | .documentStart :: rest => content? fuel rest
    | .directive :: rest =>
      match rest.dropWhile (· == .directive) with
      | .documentStart :: rest => content? fuel rest
      | _ => none
    | _ => content? fuel tokens
  if (rest.dropWhile (· == .documentEnd)).isEmpty then some n else none

/-- The node that a text spells. -/
def read? (text : String) : Option Node := (Token.scan text).bind document?

end Node

end CasefileHub.Yaml
