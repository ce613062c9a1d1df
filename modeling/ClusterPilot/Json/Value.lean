/-
JSON values and how they are read from tokens. The reader keeps the containers that are still open
on a stack and takes one token at a time, so reading a sequence of tokens is reading its parts one
after the other. Members of an object stay in the order of the text, repeated keys included.

At most 200 containers that hold something may be open at once; an empty one is not counted.
-/
import ClusterPilot.Json.Token

namespace ClusterPilot.Json

open ClusterPilot.Number

/-- A JSON value. -/
inductive Value where
  | null
  | bool (b : Bool)
  | integer (i : Int)
  | number (x : Binary64)
  | text (s : String)
  | list (items : List Value)
  | object (members : List (String × Value))
  deriving Repr, Inhabited

/-- How many containers that hold something may be open at once. -/
def maxDepth : Nat := 200

/-- A container that is still open: its content so far, in reverse order. -/
inductive Frame where
  | list (items : List Value)
  /-- An object; the value of `key` is being read. -/
  | object (members : List (String × Value)) (key : String)

/-- What has been read and what has to follow. The stack holds the open containers, innermost
first. -/
inductive Reader where
  /-- A value has to follow. -/
  | value (stack : List Frame)
  /-- A list has just been opened: a value or its end has to follow. -/
  | firstItem (stack : List Frame)
  /-- An object has just been opened: a key or its end has to follow. -/
  | firstKey (stack : List Frame)
  /-- A key has to follow. -/
  | key (stack : List Frame) (members : List (String × Value))
  /-- The colon after a key has to follow. -/
  | colon (stack : List Frame) (members : List (String × Value)) (key : String)
  /-- A value has just ended: a comma or the end of its container has to follow. -/
  | after (stack : List Frame) (v : Value)

namespace Reader

/-- The reader at the front of a value: a scalar ends at once, a container opens. -/
def value? (stack : List Frame) : Token → Option Reader
  | .null => some (.after stack .null)
  | .bool b => some (.after stack (.bool b))
  | .integer i => some (.after stack (.integer i))
  | .number x => some (.after stack (.number x))
  | .text s => some (.after stack (.text s))
  | .openList => some (.firstItem stack)
  | .openObject => some (.firstKey stack)
  | _ => none

/-- The reader after a key has been read. -/
def key? (stack : List Frame) (members : List (String × Value)) : Token → Option Reader
  | .text k => some (.colon stack members k)
  | _ => none

/-- The reader after one more token. -/
def step? : Reader → Token → Option Reader
  | .value stack, t => value? stack t
  | .firstItem stack, t =>
    if t = .closeList then some (.after stack (.list []))
    else if stack.length < maxDepth then value? (.list [] :: stack) t else none
  | .firstKey stack, t =>
    if t = .closeObject then some (.after stack (.object []))
    else if stack.length < maxDepth then key? stack [] t else none
  | .key stack members, t => key? stack members t
  | .colon stack members k, t =>
    if t = .colon then some (.value (.object members k :: stack)) else none
  | .after (.list items :: stack) v, t =>
    if t = .comma then some (.value (.list (v :: items) :: stack))
    else if t = .closeList then some (.after stack (.list (v :: items).reverse))
    else none
  | .after (.object members k :: stack) v, t =>
    if t = .comma then some (.key stack ((k, v) :: members))
    else if t = .closeObject then some (.after stack (.object ((k, v) :: members).reverse))
    else none
  | .after [] _, _ => none

/-- The value of a text that ends here. -/
def finish? : Reader → Option Value
  | .after [] v => some v
  | _ => none

end Reader

/-- The value that a sequence of tokens writes. -/
def Value.ofTokens? (ts : List Token) : Option Value :=
  (ts.foldlM Reader.step? (.value [])).bind Reader.finish?

/-- The value that a JSON text writes. -/
def Value.read? (s : String) : Option Value :=
  (tokens? s.toList).bind Value.ofTokens?

end ClusterPilot.Json
