import LocalizedStrings.Json.Skip

/-!
# JSON values of an expected shape

* `mismatched`: the problem that some other value stands where a shape is expected.
* `textValue`: a text.
* `arrayOf`: an array of values of one shape.
* `item?`, `closeArray`: the values of an array one by one, each of a shape of its own.
* `membersOf`: the members of an object, one after another.
* `variantOf`: one of two names, alone or as the only key of an object that has null for it.
-/

namespace LocalizedStrings.Json

variable {α σ : Type}

/-- The problem that the value with first character `c` is not what is expected. -/
def mismatched (expected : String) (c : Char) : Reader α := do
  let seen ← seen c
  .fail (.mismatch (.type seen expected))
where
  /-- What the value is seen as. Arrays and objects are not read any further. -/
  seen (c : Char) : Reader Seen := do
    if c = 'n' then do word "ull".toList; pure .null
    else if c = 't' then do word "rue".toList; pure (.boolean true)
    else if c = 'f' then do word "alse".toList; pure (.boolean false)
    else if c = '-' || c.isDigit then number c
    else if c = '"' then do
      let s ← textBody
      pure (.text s)
    else if c = '[' then pure .sequence
    else if c = '{' then pure .map
    else .fail .malformed

/-- A text. -/
def textValue (expected : String) : Reader String := do
  match ← token? with
  | none => .fail .ended
  | some '"' => textBody
  | some c => mismatched expected c

/-! ## Arrays -/

/-- The items from the next one on, and the bracket that ends the array. -/
def itemsFrom (item : Reader α) (s : List Char) : Except Error (Taken s (List α)) :=
  (item s).bind fun a =>
    match h : dropBlanks a.rest with
    | [] => .error .ended
    | c :: r =>
      have hr : r.length < s.length := Nat.lt_of_lt_of_le (length_lt_of_dropBlanks h) a.le
      if c = ']' then .ok ⟨[a.value], r, Nat.le_of_lt hr⟩
      else if c = ',' then
        match (dropBlanks r).head? with
        | none => .error .ended
        | some d =>
          if d = ']' then .error .malformed
          else (itemsFrom item r).bind fun as =>
            .ok ⟨a.value :: as.value, as.rest, Nat.le_trans as.le (Nat.le_of_lt hr)⟩
      else .error .malformed
termination_by s.length

/-- An array of values of one shape. -/
def arrayOf (item : Reader α) : Reader (List α) := do
  match ← token? with
  | none => .fail .ended
  | some '[' => match ← peekToken? with
    | none => .fail .ended
    | some ']' => do symbol ']'; pure []
    | some _ => itemsFrom item
  | some c => mismatched "a sequence" c

/-- The next item of an open array, if there is one. -/
def item? (isFirst : Bool) (item : Reader α) : Reader (Option α) := do
  match ← peekToken? with
  | none => .fail .ended
  | some ']' => pure none
  | some c =>
    if isFirst then do
      let a ← item
      pure (some a)
    else if c = ',' then do
      symbol ','
      match ← peekToken? with
      | none => .fail .ended
      | some ']' => .fail .malformed
      | some _ => do
        let a ← item
        pure (some a)
    else .fail .malformed

/-- The end of an open array after its last item. -/
def closeArray : Reader Unit := symbol ']'

/-! ## Objects -/

/-- The members from the next key on, after its opening quote, and the brace that ends the object.
What is known so far is `state`, and `member` reads the colon and the value for a key. -/
def membersFrom (member : σ → String → Reader σ) (state : σ) (s : List Char) :
    Except Error (Taken s σ) :=
  match (textBody >>= member state) s with
  | .error e => .error e
  | .ok ⟨state, r, hr⟩ => match h : dropBlanks r with
    | [] => .error .ended
    | c :: r' =>
      have hr' := length_lt_of_dropBlanks h
      if c = '}' then .ok ⟨state, r', by omega⟩
      else if c = ',' then match h' : dropBlanks r' with
        | [] => .error .ended
        | c' :: r'' =>
          have hr'' := length_lt_of_dropBlanks h'
          if c' = '"' then match membersFrom member state r'' with
            | .error e => .error e
            | .ok ⟨state, t, ht⟩ => .ok ⟨state, t, by omega⟩
          else .error .malformed
      else .error .malformed
termination_by s.length

/-- The members of an object, after its opening brace. -/
def membersOf (member : σ → String → Reader σ) (state : σ) : Reader σ := do
  match ← token? with
  | none => .fail .ended
  | some '}' => pure state
  | some '"' => membersFrom member state
  | some _ => .fail .malformed

/-- The value of a member that has one of the expected keys, and no value so far. -/
def field (key : String) (known : Option α) (value : Reader α) : Reader α := do
  if known.isSome then .fail (.mismatch (.duplicate key))
  symbol ':'
  value

/-- The value of a member that has none of the expected keys. -/
def skipField : Reader Unit := do
  symbol ':'
  skipValue

/-! ## Choices -/

/-- The null that stands for a value without content. -/
def unitValue : Reader Unit := do
  match ← token? with
  | none => .fail .ended
  | some 'n' => word "ull".toList
  | some c => mismatched "unit" c

/-- The choice between `a` and `b` by their names, after the name was read. -/
def choose (first second : String) (a b : α) (name : String) : Reader α :=
  if name = first then pure a
  else if name = second then pure b
  else .fail (.mismatch (.variant name first second))

/-- The name that is the key of an object, which is nothing but a text. -/
def chosenKey : Reader String := do
  match ← token? with
  | none => .fail .ended
  | some '"' => textBody
  | some _ => .fail .malformed

/-- One of the two values `a` and `b`, as its name or as an object that has null for its name. -/
def variantOf (first second : String) (a b : α) : Reader α := do
  match ← token? with
  | none => .fail .ended
  | some '"' => textBody >>= choose first second a b
  | some '{' => do
    let x ← chosenKey >>= choose first second a b
    symbol ':'
    unitValue
    symbol '}'
    pure x
  | some _ => .fail .malformed

end LocalizedStrings.Json
