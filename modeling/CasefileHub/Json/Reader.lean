import CasefileHub.Json.Token
/-!
# Reading JSON text

A reader goes over the tokens with the containers that are still open and what may come next. The
value keeps the members of objects as they are written; `read` puts it in normal form. A text with
as many containers inside each other as the limit is refused.
-/

namespace CasefileHub.Json

/-- A container that is still open: what it holds so far, the last first. -/
inductive Frame where
  | array (items : List Json)
  | object (members : List (String × Json)) (name : String)
deriving Repr

/-- What has been read so far, and so what may follow. -/
inductive Progress where
  /-- A value must follow; an array that is still empty may close instead. -/
  | needValue (frames : List Frame) (mayClose : Bool)
  /-- A member's name must follow; an object that is still empty may close instead. -/
  | needName (frames : List Frame) (members : List (String × Json)) (mayClose : Bool)
  | needColon (frames : List Frame) (members : List (String × Json)) (name : String)
  /-- A value in a container is complete. -/
  | afterItem (outer : List Frame) (inner : Frame)
  | done (v : Json)
deriving Repr

/-- A complete value goes into the innermost open container. -/
def Progress.give (v : Json) : List Frame → Progress
  | [] => .done v
  | .array items :: outer => .afterItem outer (.array (v :: items))
  | .object members name :: outer => .afterItem outer (.object ((name, v) :: members) name)

/-- Opens a container, if fewer than the limit are open then. -/
def openContainer (limit : Nat) (frames : List Frame) (next : Progress) : Except ReadError Progress :=
  if frames.length + 1 < limit then .ok next else .error .tooDeep

def readValue (limit : Nat) (frames : List Frame) (mayClose : Bool) (t : Token) :
    Except ReadError Progress :=
  match t, frames with
  | .word v, _ => .ok (.give v frames)
  | .text s, _ => .ok (.give (.str s) frames)
  | .number n, _ => .ok (.give (.num n) frames)
  | .openArray, _ => openContainer limit frames (.needValue (.array [] :: frames) true)
  | .openObject, _ => openContainer limit frames (.needName frames [] true)
  | .closeArray, .array [] :: outer =>
    if mayClose then .ok (.give (.arr []) outer) else .error (.expected "a value")
  | _, _ => .error (.expected "a value")

def Progress.step (limit : Nat) (p : Progress) (t : Token) : Except ReadError Progress :=
  match p, t with
  | .needValue frames mayClose, t => readValue limit frames mayClose t
  | .needName frames members _, .text s => .ok (.needColon frames members s)
  | .needName frames [] true, .closeObject => .ok (.give (.obj []) frames)
  | .needName _ _ _, _ => .error (.expected "a name")
  | .needColon frames members name, .colon => .ok (.needValue (.object members name :: frames) false)
  | .needColon _ _ _, _ => .error (.expected "a colon")
  | .afterItem outer (.array items), .comma => .ok (.needValue (.array items :: outer) false)
  | .afterItem outer (.array items), .closeArray => .ok (.give (.arr items.reverse) outer)
  | .afterItem outer (.object members _), .comma => .ok (.needName outer members false)
  | .afterItem outer (.object members _), .closeObject => .ok (.give (.obj members.reverse) outer)
  | .afterItem _ _, _ => .error (.expected "a comma or the end of a container")
  | .done _, _ => .error .trailing

/-- The value that a list of tokens spells. -/
def ofTokens (limit : Nat) (tokens : List Token) : Except ReadError Json := do
  match ← tokens.foldlM (Progress.step limit) (.needValue [] false) with
  | .done v => return v
  | _ => throw .unexpectedEnd

/-- The limit on containers inside each other. -/
def nestingLimit : Nat := 128

/-- The value of a text, with the members of objects as they stand in it. -/
def readAsWritten (s : String) : Except ReadError Json := do
  ofTokens nestingLimit (← Token.scan s.toList)

/-- The value of a text, in normal form. -/
def read (s : String) : Except ReadError Json := normalize <$> readAsWritten s

end CasefileHub.Json
