import ClassSkeleton.Json.Basic
import ClassSkeleton.Json.Token

/-
  ClassSkeleton.Json.Parse — reading a JSON text.

  A machine takes the tokens one by one. It knows what may come next and keeps a stack of the arrays
  and objects that are open, each with what it has so far. A text is read when the machine has one
  value, nothing is open and no token is left.
-/

namespace ClassSkeleton

namespace Json

/-- An array or object that is open; in an object the value of `key` is being read. -/
inductive Frame where
  | array (items : List JsonValue)
  | object (members : List (String × JsonValue)) (key : String)

inductive Expect where
  | value
  /-- After `[`: a value or the end. -/
  | firstItem
  /-- After an opening brace: a key or the end. -/
  | firstKey
  /-- After a comma in an object. -/
  | nextKey (members : List (String × JsonValue))
  | colon
  /-- A value is complete. -/
  | done (v : JsonValue)

structure Machine where
  expect : Expect
  stack : List Frame

namespace Machine

def start : Machine := ⟨.value, []⟩

def startValue (stack : List Frame) : Token → Option Machine
  | .null => some ⟨.done .null, stack⟩
  | .bool b => some ⟨.done (.bool b), stack⟩
  | .number s => some ⟨.done (.number s), stack⟩
  | .string s => some ⟨.done (.string s), stack⟩
  | .openBracket => some ⟨.firstItem, stack⟩
  | .openBrace => some ⟨.firstKey, stack⟩
  | _ => none

def startMember (members : List (String × JsonValue)) (stack : List Frame) : Token → Option Machine
  | .string key => some ⟨.colon, .object members key :: stack⟩
  | _ => none

/-- What follows a complete value in whatever is open. -/
def afterValue (v : JsonValue) : List Frame → Token → Option Machine
  | .array items :: stack, .comma => some ⟨.value, .array (items ++ [v]) :: stack⟩
  | .array items :: stack, .closeBracket => some ⟨.done (.array (items ++ [v])), stack⟩
  | .object members key :: stack, .comma => some ⟨.nextKey (members ++ [(key, v)]), stack⟩
  | .object members key :: stack, .closeBrace => some ⟨.done (.object (members ++ [(key, v)])), stack⟩
  | _, _ => none

def step (m : Machine) (t : Token) : Option Machine :=
  match m.expect with
  | .value => startValue m.stack t
  | .firstItem => if t = .closeBracket then some ⟨.done (.array []), m.stack⟩ else startValue (.array [] :: m.stack) t
  | .firstKey => if t = .closeBrace then some ⟨.done (.object []), m.stack⟩ else startMember [] m.stack t
  | .nextKey members => startMember members m.stack t
  | .colon => if t = .colon then some ⟨.value, m.stack⟩ else none
  | .done v => afterValue v m.stack t

def result? (m : Machine) : Option JsonValue :=
  match m.expect, m.stack with
  | .done v, [] => some v
  | _, _ => none

end Machine

end Json

/-- The value a text stands for. -/
def JsonValue.parse? (text : String) : Option JsonValue := do
  let ts ← Json.tokens? text.toList
  let m ← ts.foldlM Json.Machine.step Json.Machine.start
  m.result?

end ClassSkeleton
