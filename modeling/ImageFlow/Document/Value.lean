/-!
# Documents

Trees of plain data, in which values of this library are stored and exchanged. A record is read by
the names of its fields; fields that are not asked for do not matter. A record may also be given as
the list of its field values, in the order in which the fields are declared. A variant is given by
its name alone if it carries nothing, and otherwise as a record of one field.
-/

namespace ImageFlow.Document

/-- A tree of plain data. -/
inductive Value
  | null
  | bool (b : Bool)
  | int (n : Int)
  /-- A number that is not written as an integer: `mantissa / 10 ^ places`. -/
  | decimal (mantissa : Int) (places : Nat)
  | text (s : String)
  | list (items : List Value)
  | record (fields : List (String × Value))
  deriving Inhabited

/-- The fields of a record. -/
abbrev Fields := List (String × Value)

/-- What document languages do differently. -/
structure Dialect where
  /-- What may stand beside the name of a variant that carries nothing. -/
  isNothing : Value → Bool
  /-- Whether a list may go on after the last field of a record with defaults. -/
  allowsMore : Bool

/-- The dialect in which null stands for nothing. -/
def Dialect.withNull : Dialect :=
  { isNothing := fun value ↦ match value with
      | .null => true
      | _ => false
    allowsMore := false }

/-- The dialect in which an empty list or record stands for nothing. -/
def Dialect.withoutNull : Dialect :=
  { isNothing := fun value ↦ match value with
      | .list [] => true
      | .record [] => true
      | _ => false
    allowsMore := true }

namespace Value

/-! ## Reading -/

def text? : Value → Option String
  | text s => some s
  | _ => none

def bool? : Value → Option Bool
  | bool b => some b
  | _ => none

/-- An integer within bounds. -/
def intIn? (least greatest : Int) : Value → Option Int
  | int n => if least ≤ n ∧ n ≤ greatest then some n else none
  | _ => none

/-- A natural number that fits into a word of some bits. -/
def word? (bits : Nat) (value : Value) : Option Nat :=
  (value.intIn? 0 (Int.pow 2 bits - 1)).map Int.toNat

/-- A list of values of one kind. -/
def list? {α : Type} (item : Value → Option α) : Value → Option (List α)
  | list items => items.mapM item
  | _ => none

/-- A value that may be null. -/
def nullable? {α : Type} (inner : Value → Option α) : Value → Option (Option α)
  | null => some none
  | value => (inner value).map some

/-- The fields of a record, of which only those of the given names are asked for. -/
def fields? (names : List String) : Value → Option Fields
  | record fields => some fields
  | list items => if items.length = names.length then some (names.zip items) else none
  | _ => none

/-- The fields of a record whose fields all have defaults. -/
def fieldsWithDefaults? (dialect : Dialect) (names : List String) : Value → Option Fields
  | record fields => some fields
  | list items =>
    if items.length ≤ names.length ∨ dialect.allowsMore then some (names.zip items) else none
  | _ => none

/-- The name of a variant and what it carries. -/
def variant? : Value → Option (String × Option Value)
  | text name => some (name, none)
  | record [(name, content)] => some (name, some content)
  | _ => none

/-- The name of a variant that carries nothing. -/
def plainVariant? (dialect : Dialect) (value : Value) : Option String := do
  let (name, content) ← value.variant?
  if content.all dialect.isNothing then some name else none

/-- One of several variants that carry nothing. -/
def oneOf? {α : Type} (choices : List (String × α)) (value : Value) : Option α := do
  choices.lookup (← value.plainVariant? .withNull)

/-! ## Writing -/

def nat (n : Nat) : Value := int n

def nullable {α : Type} (inner : α → Value) : Option α → Value
  | some a => inner a
  | none => null

def listOf {α : Type} (item : α → Value) (items : List α) : Value := list (items.map item)

/-- A variant that carries a record. -/
def variant (name : String) (fields : Fields) : Value := record [(name, record fields)]

end Value

namespace Fields

/-- A field that must be there. -/
def required? {α : Type} (fields : Fields) (name : String) (read : Value → Option α) :
    Option α := do
  read (← fields.lookup name)

/-- A field that may be null or missing. -/
def nullable? {α : Type} (fields : Fields) (name : String) (read : Value → Option α) :
    Option (Option α) :=
  match fields.lookup name with
  | none => some none
  | some value => value.nullable? read

/-- A field with a default. -/
def withDefault? {α : Type} (fields : Fields) (name : String) (read : Value → Option α)
    (default : α) : Option α :=
  match fields.lookup name with
  | none => some default
  | some value => read value

end Fields

end ImageFlow.Document
