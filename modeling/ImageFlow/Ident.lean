import ImageFlow.Text.Structure

/-!
# Identifiers

Nodes, data objects and kernels are numbered in the order in which they are made. A number is never
given out twice, so comparing two numbers compares two ages. A handle to a data object also carries
the identity of the graph that owns the object: a handle from elsewhere is recognised as foreign
instead of being taken for another object of the same number.
-/

namespace ImageFlow

/-- Number of a node within its graph. -/
structure NodeId where
  index : Nat
  deriving DecidableEq, Repr

/-- Number of a data object, which is its place in the arena that owns it. -/
structure DataId where
  index : Nat
  deriving DecidableEq, Repr

/-- Number that a kernel receives when it is registered. -/
structure KernelId where
  index : Nat
  deriving DecidableEq, Repr

/-- Identity of a graph: a 128-bit number, written as thirty-two hexadecimal digits. -/
structure GraphId where
  bits : Nat
  deriving DecidableEq, Repr

/-- Handle to a data object of one graph. -/
structure DataRef where
  graph : GraphId
  id : DataId
  deriving DecidableEq, Repr

instance : Ord NodeId where
  compare a b := compare a.index b.index

instance : Ord DataId where
  compare a b := compare a.index b.index

instance : LT NodeId where
  lt a b := a.index < b.index

instance : LE NodeId where
  le a b := a.index ≤ b.index

instance (a b : NodeId) : Decidable (a < b) := inferInstanceAs (Decidable (a.index < b.index))

instance (a b : NodeId) : Decidable (a ≤ b) := inferInstanceAs (Decidable (a.index ≤ b.index))

/-! ## Written forms -/

/-- A node is written `N` and its number. -/
def NodeId.label (id : NodeId) : String := "N" ++ id.index.repr

/-- A data object is written `D` and its number. -/
def DataId.label (id : DataId) : String := "D" ++ id.index.repr

/-- A kernel is written `K` and its number. -/
def KernelId.label (id : KernelId) : String := "K" ++ id.index.repr

def NodeId.describe (id : NodeId) : String := Text.applyText "NodeId" [id.index.repr]

def DataId.describe (id : DataId) : String := Text.applyText "DataId" [id.index.repr]

def KernelId.describe (id : KernelId) : String := Text.applyText "KernelId" [id.index.repr]

/-- The identity of a graph in full: five groups of hexadecimal digits joined by hyphens. -/
def GraphId.hyphenated (id : GraphId) : String :=
  let digits := Text.hexDigits 32 id.bits
  let group := fun start length ↦ String.ofList ((digits.drop start).take length)
  "-".intercalate [group 0 8, group 8 4, group 12 4, group 16 4, group 20 12]

/-- A graph is shown by the first eight digits of its identity. -/
def GraphId.label (id : GraphId) : String :=
  String.ofList ((Text.hexDigits 32 id.bits).take 8)

/-- A handle is written as the object at its graph. -/
def DataRef.label (ref : DataRef) : String := ref.id.label ++ "@" ++ ref.graph.label

def GraphId.ofGrouped? (chars : List Char) : Option GraphId :=
  let plain := chars.filter (· != '-')
  let group := fun start length ↦ (plain.drop start).take length
  let grouped := ['-'].intercalate [group 0 8, group 8 4, group 12 4, group 16 4, group 20 12]
  if plain.length = 32 ∧ chars = grouped then (Text.hexValue? plain).map GraphId.mk else none

/-- Reads the full written form of a graph's identity. Letters may be of either case. The hyphens
may be left out; if they are there, the whole may stand in braces or after the mark of a resource
name. -/
def GraphId.ofText? (text : String) : Option GraphId :=
  let chars := text.toList
  let mark := "urn:uuid:".toList
  if chars.length = 32 then (Text.hexValue? chars).map GraphId.mk
  else if mark.isPrefixOf chars then GraphId.ofGrouped? (chars.drop mark.length)
  else if chars.head? = some '\x7b' ∧ chars.getLast? = some '\x7d' then
    GraphId.ofGrouped? (chars.drop 1).dropLast
  else GraphId.ofGrouped? chars

end ImageFlow
