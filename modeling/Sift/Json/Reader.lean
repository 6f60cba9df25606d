import Sift.Json.Token

/-!
# Reading JSON text

A text is read token by token. Between two tokens the reader stands in a `State`: what may come
next, what the innermost open container holds so far, and the containers around it. A step either
leads to the next state or refuses the token, and a text is the value of the state it ends in
(`Json.ofText?`). Containers nest at most 127 deep, and of two members with one key the later one
counts.
-/

namespace Sift.Json

namespace Reader

/-- An open container with what was read of it: elements, the last one first, or members and the
key of the one that is being read. -/
inductive Frame where
  | array (done : List Json)
  | object (done : List Member) (key : String)

/-- What may come next. The frames are the open containers, the innermost first. -/
inductive State where
  | value (frames : List Frame)
  /-- The first element of an array, or its end. -/
  | arrayStart (frames : List Frame)
  /-- A comma or the end, after an element. -/
  | arrayRest (done : List Json) (frames : List Frame)
  /-- The first key of an object, or its end. -/
  | objectStart (frames : List Frame)
  | key (done : List Member) (frames : List Frame)
  | colon (done : List Member) (key : String) (frames : List Frame)
  /-- A comma or the end, after a member. -/
  | objectRest (done : List Member) (frames : List Frame)
  | complete (v : Json)

/-- How many containers may be open at once. -/
def maxDepth : Nat := 127

/-- The state after a whole value was read inside these containers. -/
def deliver (v : Json) : List Frame → State
  | [] => .complete v
  | .array done :: frames => .arrayRest (v :: done) frames
  | .object done key :: frames => .objectRest (Member.insert ⟨key, v⟩ done) frames

/-- The state after a token that starts a value. -/
def startValue (token : Token) (frames : List Frame) : Option State :=
  match token with
  | .beginArray => if frames.length < maxDepth then some (.arrayStart frames) else none
  | .beginObject => if frames.length < maxDepth then some (.objectStart frames) else none
  | .string s => some (deliver (.string s) frames)
  | .scalar v => some (deliver v frames)
  | _ => none

/-- The state after a token, if the token may come. -/
def step (state : State) (token : Token) : Option State :=
  match state, token with
  | .value frames, token => startValue token frames
  | .arrayStart frames, .endArray => some (deliver (.array []) frames)
  | .arrayStart frames, token => startValue token (.array [] :: frames)
  | .arrayRest done frames, .comma => some (.value (.array done :: frames))
  | .arrayRest done frames, .endArray => some (deliver (.array done.reverse) frames)
  | .objectStart frames, .endObject => some (deliver (.object []) frames)
  | .objectStart frames, .string key => some (.colon [] key frames)
  | .key done frames, .string key => some (.colon done key frames)
  | .colon done key frames, .colon => some (.value (.object done key :: frames))
  | .objectRest done frames, .comma => some (.key done frames)
  | .objectRest done frames, .endObject => some (deliver (.object done) frames)
  | _, _ => none

def State.result? : State → Option Json
  | .complete v => some v
  | _ => none

end Reader

def ofText? (text : String) : Option Json := do
  let tokens ← Token.tokens? text
  let state ← tokens.foldlM Reader.step (.value [])
  state.result?

end Sift.Json
