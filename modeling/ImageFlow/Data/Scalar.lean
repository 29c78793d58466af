import ImageFlow.Text.Structure
import ImageFlow.Decimal.Binary32

/-!
# Scalars

The values of scalar objects and of array items. A value knows its type, and the types are closed:
fixed-width integers, a 32-bit floating-point number, a truth value and an enumerated constant.
A floating-point number is kept as its bit pattern, so no payload of a NaN is lost.
-/

namespace ImageFlow

/-- Type of a scalar or of an array item. -/
inductive ScalarType
  | u8
  | i16
  | u32
  | i32
  | f32
  | bool
  /-- An enumerated constant, such as a conversion policy. -/
  | enum
  deriving DecidableEq, Repr

/-- A scalar value of a known type. -/
inductive ScalarValue
  | u8 (value : UInt8)
  | i16 (value : Int16)
  | u32 (value : UInt32)
  | i32 (value : Int32)
  /-- A floating-point number, given by its bits. -/
  | f32 (bits : UInt32)
  | bool (value : Bool)
  | enum (value : Int32)
  deriving DecidableEq, Repr

namespace ScalarType

def size : ScalarType → Nat
  | u8 | bool => 1
  | i16 => 2
  | u32 | i32 | f32 | enum => 4

def zero : ScalarType → ScalarValue
  | u8 => .u8 0
  | i16 => .i16 0
  | u32 => .u32 0
  | i32 => .i32 0
  | f32 => .f32 0
  | bool => .bool false
  | enum => .enum 0

def label : ScalarType → String
  | u8 => "u8"
  | i16 => "i16"
  | u32 => "u32"
  | i32 => "i32"
  | f32 => "f32"
  | bool => "bool"
  | enum => "enum"

def constructorName : ScalarType → String
  | u8 => "U8"
  | i16 => "I16"
  | u32 => "U32"
  | i32 => "I32"
  | f32 => "F32"
  | bool => "Bool"
  | enum => "Enum"

end ScalarType

namespace ScalarValue

def type : ScalarValue → ScalarType
  | u8 _ => .u8
  | i16 _ => .i16
  | u32 _ => .u32
  | i32 _ => .i32
  | f32 _ => .f32
  | bool _ => .bool
  | enum _ => .enum

/-- The value as an unsigned number, for the unsigned types. -/
def unsigned? : ScalarValue → Option UInt32
  | u8 v => some v.toUInt32
  | u32 v => some v
  | _ => none

/-- The value as a signed number, for the types whose values all fit. -/
def signed? : ScalarValue → Option Int32
  | u8 v => some (Int32.ofNat v.toNat)
  | i16 v => some (Int32.ofInt v.toInt)
  | i32 v => some v
  | enum v => some v
  | _ => none

/-- A value in diagnostics: its type applied to its number. -/
def describe (v : ScalarValue) : String :=
  let number := match v with
    | u8 v => v.toNat.repr
    | i16 v => v.toInt.repr
    | u32 v => v.toNat.repr
    | i32 v => v.toInt.repr
    | f32 bits => Decimal.binary32Text bits
    | bool b => Text.boolText b
    | enum v => v.toInt.repr
  Text.applyText v.type.constructorName [number]

end ScalarValue

theorem ScalarType.type_zero (t : ScalarType) : t.zero.type = t := by
  cases t <;> rfl

end ImageFlow
