import ImageFlow.Document.Errors
import ImageFlow.Graph.Basic
import ImageFlow.Graph.Execution

/-!
# Documents of platforms, plans and graphs

How targets, settings, plans, nodes and whole graphs are written as documents, and how the first
three are read back. A map whose keys are nodes is stored with the numbers of the nodes as texts.
-/

namespace ImageFlow

open Document

/-! ## Targets and settings -/

namespace TargetPolicy

/-- A policy is written as its name, with the target that it names. -/
def toDocument : TargetPolicy → Value
  | lowestIndex => .text "lowest_index"
  | named target => .record [("named", .text target)]

def ofDocument? (dialect : Dialect) (value : Value) : Option TargetPolicy := do
  match ← value.variant? with
  | ("lowest_index", content) => if content.all dialect.isNothing then some lowestIndex else none
  | ("named", some content) => named (← content.text?)
  | _ => none

end TargetPolicy

namespace Target

/-- A target is written with its kernels in order. -/
def toDocument (target : Target) : Value :=
  .record [("name", .text target.name), ("kernels", .listOf .text target.kernels)]

/-- Reads a target. The kernels may come in any order, and more than once. -/
def ofDocument? (value : Value) : Option Target := do
  let fields ← value.fields? ["name", "kernels"]
  let name ← fields.required? "name" Value.text?
  let kernels ← fields.required? "kernels" (Value.list? Value.text?)
  return { name, kernels := Ordered.ofList kernels }

end Target

namespace RunOptions

def toDocument (options : RunOptions) : Value :=
  .record [("parallel", .bool options.parallel), ("max_threads", .nat options.maxThreads),
    ("collect_perf", .bool options.collectPerf)]

/-- Reads run options; every field has a default. -/
def ofDocument? (dialect : Dialect) (value : Value) : Option RunOptions := do
  let fields ← value.fieldsWithDefaults? dialect ["parallel", "max_threads", "collect_perf"]
  let parallel ← fields.withDefault? "parallel" Value.bool? standard.parallel
  let maxThreads ← fields.withDefault? "max_threads" (Value.word? 64) standard.maxThreads
  let collectPerf ← fields.withDefault? "collect_perf" Value.bool? standard.collectPerf
  return { parallel, maxThreads, collectPerf }

end RunOptions

namespace Settings

/-- Settings are written in two sections. -/
def toDocument (settings : Settings) : Value :=
  .record [("execution", settings.options.toDocument),
    ("scheduler", .record [("policy", settings.policy.toDocument)])]

def policyOf? (dialect : Dialect) (value : Value) : Option TargetPolicy := do
  let fields ← value.fieldsWithDefaults? dialect ["policy"]
  fields.withDefault? "policy" (TargetPolicy.ofDocument? dialect) standard.policy

/-- Reads settings; every section and every field has a default. -/
def ofDocument? (dialect : Dialect) (value : Value) : Option Settings := do
  let fields ← value.fieldsWithDefaults? dialect ["execution", "scheduler"]
  let options ← fields.withDefault? "execution" (RunOptions.ofDocument? dialect) standard.options
  let policy ← fields.withDefault? "scheduler" (policyOf? dialect) standard.policy
  return { options, policy }

end Settings

/-! ## Counters and plans -/

namespace Perf

def toDocument (perf : Perf) : Value :=
  .record [("num", .nat perf.num), ("last", .nat perf.last), ("min", .nat perf.min),
    ("max", .nat perf.max), ("sum", .nat perf.sum), ("avg", .nat perf.avg)]

def ofDocument? (value : Value) : Option Perf := do
  let fields ← value.fields? ["num", "last", "min", "max", "sum", "avg"]
  let word := fun name ↦ fields.required? name (Value.word? 64)
  return { num := ← word "num", last := ← word "last", min := ← word "min", max := ← word "max",
           sum := ← word "sum", avg := ← word "avg" }

end Perf

namespace MemoryEntry

def toDocument (entry : MemoryEntry) : Value :=
  .record [("data", entry.data.toDocument), ("bytes", .nat entry.bytes),
    ("first_use", .nat entry.firstUse), ("last_use", .nat entry.lastUse)]

def ofDocument? (value : Value) : Option MemoryEntry := do
  let fields ← value.fields? ["data", "bytes", "first_use", "last_use"]
  let data ← fields.required? "data" DataId.ofDocument?
  let bytes ← fields.required? "bytes" (Value.word? 64)
  let firstUse ← fields.required? "first_use" (Value.word? 64)
  let lastUse ← fields.required? "last_use" (Value.word? 64)
  return { data, bytes, firstUse, lastUse }

end MemoryEntry

namespace MemoryPlan

def toDocument (memory : MemoryPlan) : Value :=
  .record [("entries", .listOf MemoryEntry.toDocument memory.entries),
    ("total_bytes", .nat memory.totalBytes), ("allocated_bytes", .nat memory.allocatedBytes)]

def ofDocument? (value : Value) : Option MemoryPlan := do
  let fields ← value.fields? ["entries", "total_bytes", "allocated_bytes"]
  let entries ← fields.required? "entries" (Value.list? MemoryEntry.ofDocument?)
  let totalBytes ← fields.required? "total_bytes" (Value.word? 64)
  let allocatedBytes ← fields.required? "allocated_bytes" (Value.word? 64)
  return { entries, totalBytes, allocatedBytes }

end MemoryPlan

namespace Plan

def orderDocument (order : List NodeId) : Value := .listOf NodeId.toDocument order

def levelsDocument (levels : List (List NodeId)) : Value := .listOf orderDocument levels

def order? (value : Value) : Option (List NodeId) := value.list? NodeId.ofDocument?

def levels? (value : Value) : Option (List (List NodeId)) := value.list? order?

/-- A number for each node, as a list of pairs. -/
def pairsDocument (entries : List (NodeId × Nat)) : Value :=
  .listOf (fun (node, n) ↦ .list [node.toDocument, .nat n]) entries

/-- A plan is written with its pairs in order. -/
def toDocument (plan : Plan) : Value :=
  .record [("order", orderDocument plan.order), ("levels", levelsDocument plan.levels),
    ("targets", pairsDocument plan.targets), ("bandwidth", pairsDocument plan.bandwidth),
    ("memory", plan.memory.toDocument), ("count", .nat plan.order.length),
    ("empty", .bool plan.order.isEmpty)]

/-- A number for each node, as a record. -/
def storedPairs (entries : List (NodeId × Nat)) : Value :=
  .record (entries.map fun (node, n) ↦ (node.index.repr, .nat n))

/-- A plan as it is stored. -/
def toStored (plan : Plan) : Value :=
  .record [("order", orderDocument plan.order), ("levels", levelsDocument plan.levels),
    ("targets", storedPairs plan.targets), ("bandwidth", storedPairs plan.bandwidth),
    ("memory", plan.memory.toDocument)]

def key? (name : String) : Option NodeId := do
  let digits := name.toList
  if digits.isEmpty || !digits.all Char.isDigit then
    none
  if digits.length > 1 && digits.head? == some '0' then
    none
  let n := digits.foldl (fun n c ↦ 10 * n + (c.toNat - 48)) 0
  if n < Nat.pow 2 32 then some ⟨n⟩ else none

def pairs? : Value → Option (List (NodeId × Nat))
  | .record fields => fields.mapM fun (name, value) ↦ do return (← key? name, ← value.word? 64)
  | _ => none

def ofStored? (value : Value) : Option Plan := do
  let fields ← value.fields? ["order", "levels", "targets", "bandwidth", "memory"]
  let order ← fields.required? "order" order?
  let levels ← fields.required? "levels" levels?
  let targets ← fields.required? "targets" pairs?
  let bandwidth ← fields.required? "bandwidth" pairs?
  let memory ← fields.required? "memory" MemoryPlan.ofDocument?
  return { order, levels, targets, bandwidth, memory }

end Plan

/-! ## Nodes and graphs -/

namespace NodeAction

def toDocument : NodeAction → Value
  | proceed => .text "Continue"
  | abandon => .text "Abandon"

def ofDocument? (value : Value) : Option NodeAction :=
  value.oneOf? [("Continue", proceed), ("Abandon", abandon)]

end NodeAction

/-- A registered kernel is written with its signature. -/
def RegisteredKernel.toDocument (entry : RegisteredKernel) : Value :=
  .record [("id", entry.id.toDocument), ("display", .text entry.id.label),
    ("name", .text entry.name), ("metadata", entry.signature.toDocument),
    ("outputs", .listOf .nat entry.signature.outputSlots), ("debug", .text entry.describe)]

/-- A node is written with its bindings. -/
def Node.toDocument (node : Node) : Value :=
  .record [("id", node.id.toDocument), ("kernel", .text node.kernelName),
    ("bindings", .listOf (fun binding ↦
      .list [.nat binding.slot, binding.ref.id.toDocument, binding.direction.toDocument])
      node.bindings),
    ("reads", .listOf DataId.toDocument node.reads),
    ("writes", .listOf DataId.toDocument node.writes),
    ("affinity", .nullable .nat node.affinity), ("callback", .bool node.callback.isSome),
    ("runs", .nat node.perf.num)]

def RunStats.toDocument (stats : RunStats) : Value :=
  .record [("nodes", .nat stats.nodes), ("levels", .nat stats.levels),
    ("parallel", .bool stats.parallel)]

/-- A graph is written with its nodes, its live objects and its plan. -/
def Graph.toDocument (graph : Graph) : Value :=
  .record [("state", graph.state.toDocument), ("nodes", .listOf Node.toDocument graph.nodes),
    ("data", .listOf DataObject.toDocument graph.arena.objects),
    ("count", .nat graph.arena.size), ("plan", .nullable Plan.toDocument graph.plan),
    ("runs", .nat graph.perf.num)]

end ImageFlow
