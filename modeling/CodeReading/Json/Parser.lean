import CodeReading.Json.Token

set_option autoImplicit false

namespace CodeReading.Json

/-- An open array or object with what was read of it, in reverse order; an open object waits for the
    value of a key. -/
inductive Frame where
  | arr (items : List Json)
  | obj (members : List (Option String × Json)) (key : Option String)

inductive Expect where
  | value
  | firstItem
  | firstKey
  | key (members : List (Option String × Json))
  | colon (members : List (Option String × Json)) (key : Option String)
  /-- a comma or the end of the innermost frame; the given value is complete -/
  | next (value : Json)

structure State where
  expect : Expect
  stack : List Frame

def State.start : State := ⟨.value, []⟩

def beginValue (stack : List Frame) : Token → Option State
  | .scalar value => some ⟨.next value, stack⟩
  | .openArr => some ⟨.firstItem, stack⟩
  | .openObj => some ⟨.firstKey, stack⟩
  | _ => none

def continueFrame (value : Json) : List Frame → Token → Option State
  | .arr items :: stack, .comma => some ⟨.value, .arr (value :: items) :: stack⟩
  | .arr items :: stack, .closeArr => some ⟨.next (.arr (value :: items).reverse), stack⟩
  | .obj members key :: stack, .comma => some ⟨.key ((key, value) :: members), stack⟩
  | .obj members key :: stack, .closeObj =>
    some ⟨.next (.obj ((key, value) :: members).reverse), stack⟩
  | _, _ => none

def State.step (s : State) (token : Token) : Option State :=
  match s.expect, token with
  | .value, token => beginValue s.stack token
  | .firstItem, .closeArr => some ⟨.next (.arr []), s.stack⟩
  | .firstItem, token => beginValue (.arr [] :: s.stack) token
  | .firstKey, .closeObj => some ⟨.next (.obj []), s.stack⟩
  | .firstKey, .scalar (.str key) => some ⟨.colon [] key, s.stack⟩
  | .key members, .scalar (.str key) => some ⟨.colon members key, s.stack⟩
  | .colon members key, .colon => some ⟨.value, .obj members key :: s.stack⟩
  | .next value, token => continueFrame value s.stack token
  | _, _ => none

def State.result : State → Option Json
  | ⟨.next value, []⟩ => some value
  | _ => none

def ofTokens (tokens : List Token) : Option Json :=
  (tokens.foldlM State.step State.start).bind State.result

def parse (text : String) : Option Json :=
  (tokens text.toList).bind ofTokens

end CodeReading.Json
