import TagSync.Json.Token

/-!
# Reading JSON

`Json.read?` reads a text that is one JSON value, with nothing but blanks around it. The tokens
are put together on a stack of open brackets, so values may be nested to any depth.
-/

set_option autoImplicit false

namespace TagSync.Json

namespace Reader

/-- A bracket that is still open, with what stands in it so far, last one first. -/
inductive Frame where
  | arr (items : List Json)
  /-- An object, with the name of the field that comes next; a name may denote nothing. -/
  | obj (fields : List (String × Json)) (name : String) (broken : Bool)

/-- What may come next. -/
inductive Await where
  | value
  /-- A value or the end of an empty list. -/
  | valueOrEnd
  /-- A name or the end of an empty object. -/
  | nameOrEnd
  | name
  /-- The colon behind a name. -/
  | colon
  /-- A comma or the end of the innermost bracket. -/
  | commaOrEnd
  /-- Nothing: the text was the given value. -/
  | nothing (v : Json)

/-- The open brackets, innermost first, and what may come next. -/
structure State where
  /-- The open brackets, innermost first. -/
  stack : List Frame
  /-- What may come next. -/
  await : Await

def State.start : State := ⟨[], .value⟩

def put (stack : List Frame) (v : Json) : State :=
  match stack with
  | [] => ⟨[], .nothing v⟩
  | .arr items :: rest => ⟨.arr (v :: items) :: rest, .commaOrEnd⟩
  | .obj fields name broken :: rest => ⟨.obj ((name, v) :: fields) "" broken :: rest, .commaOrEnd⟩

/-- Closes the innermost bracket, if it is a list. -/
def closeArr? : List Frame → Option State
  | .arr items :: rest => some (put rest (.arr items.reverse))
  | _ => none

/-- Closes the innermost bracket, if it is an object. -/
def closeObj? : List Frame → Option State
  | .obj fields _ broken :: rest =>
    some (put rest (if broken then .garbled else .obj fields.reverse))
  | _ => none

def value? (stack : List Frame) : Token → Option State
  | .scalar v => some (put stack v)
  | .openArr => some ⟨.arr [] :: stack, .valueOrEnd⟩
  | .openObj => some ⟨.obj [] "" false :: stack, .nameOrEnd⟩
  | _ => none

def name? : List Frame → Token → Option State
  | .obj fields _ broken :: rest, .scalar (.str name) =>
    some ⟨.obj fields name broken :: rest, .colon⟩
  | .obj fields _ _ :: rest, .scalar .garbled => some ⟨.obj fields "" true :: rest, .colon⟩
  | _, _ => none

def step? (s : State) (t : Token) : Option State :=
  match s.await, t with
  | .nothing _, _ => none
  | .value, t => value? s.stack t
  | .valueOrEnd, .closeArr => closeArr? s.stack
  | .valueOrEnd, t => value? s.stack t
  | .nameOrEnd, .closeObj => closeObj? s.stack
  | .nameOrEnd, t => name? s.stack t
  | .name, t => name? s.stack t
  | .colon, .colon => some ⟨s.stack, .value⟩
  | .colon, _ => none
  | .commaOrEnd, .closeArr => closeArr? s.stack
  | .commaOrEnd, .closeObj => closeObj? s.stack
  | .commaOrEnd, .comma =>
    match s.stack with
    | .arr _ :: _ => some ⟨s.stack, .value⟩
    | .obj _ _ _ :: _ => some ⟨s.stack, .name⟩
    | [] => none
  | .commaOrEnd, _ => none

def steps? (s : State) : List Token → Option State
  | [] => some s
  | t :: ts =>
    match step? s t with
    | none => none
    | some s => steps? s ts

end Reader

/-- The value that a text denotes. -/
def read? (text : String) : Option Json :=
  match Token.scan? text.toList with
  | none => none
  | some tokens =>
    match Reader.steps? .start tokens with
    | some ⟨[], .nothing v⟩ => some v
    | _ => none

end TagSync.Json
