import GiapiGlue.Giapi

set_option autoImplicit false

/-! # Message selectors

What a broker makes of a selector of the form `PROP IN ('x', ..., 'z')`. A consumer whose selector is
not of that form is refused; one whose selector is receives the messages whose property is listed. -/

namespace Giapi

namespace Selector

/-- Where the reader of a list of literals stands. -/
inductive Position
  /-- Before a literal. -/
  | before
  /-- In a literal, whose bytes so far are given last first. -/
  | inside (read : List UInt8)
  /-- After a literal. -/
  | after
  /-- After the closing parenthesis. -/
  | closed
deriving DecidableEq, Repr

def blank : UInt8 := 0x20

def quote : UInt8 := 0x27

def comma : UInt8 := 0x2C

def close : UInt8 := 0x29

/-- The literals up to the closing parenthesis, which nothing may follow. -/
def literals : Position → List UInt8 → Option (List CxxString)
  | .closed, [] => some []
  | .closed, _ :: _ => none
  | _, [] => none
  | .before, c :: rest =>
    if c = blank then literals .before rest
    else if c = quote then literals (.inside []) rest
    else none
  | .inside read, c :: rest =>
    if c = quote then (read.reverse :: ·) <$> literals .after rest
    else literals (.inside (c :: read)) rest
  | .after, c :: rest =>
    if c = blank then literals .after rest
    else if c = comma then literals .before rest
    else if c = close then literals .closed rest
    else none

/-- The property a selector is about and the values it lists. -/
def parse (selector : CxxString) : Option (CxxString × List CxxString) :=
  let property := selector.takeWhile (· ≠ blank)
  let rest := selector.dropWhile (· ≠ blank)
  if property ≠ [] ∧ (str " IN (").isPrefixOf rest then
    (property, ·) <$> literals .before (rest.drop 5)
  else
    none

/-- The broker takes the selector. -/
def accepted (selector : CxxString) : Bool := (parse selector).isSome

/-- A message whose `property` is `value` is delivered. -/
def selects (selector property value : CxxString) : Bool :=
  match parse selector with
  | some (p, values) => decide (p = property) && values.contains value
  | none => false

example : parse (str "PROP IN ('x', 'y','z')")
    = some (str "PROP", [str "x", str "y", str "z"]) := by rfl

end Selector

end Giapi
