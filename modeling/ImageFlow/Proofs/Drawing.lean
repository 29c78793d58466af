import ImageFlow.Graph.Dot
import ImageFlow.Proofs.Verification.PlanValidity
import Mathlib.Data.List.Infix

/-!
# What a drawing tells of a graph

The drawing of a graph without its data has one line for each node and then one for each edge. The
number of a node ends before a character that is no digit, so numbers can be read off. The name of a
kernel is written as it is, and nothing in it is marked: it ends where the line ends, unless the
name itself contains the end of a node's line and the beginning of another line. As long as no name
does, the drawing tells the nodes with their names, and the edges. A name that does can be drawn as
several nodes.
-/

namespace ImageFlow

/-! ## Reading text from the left -/

section Reading

variable {a b c r s : List Char} {x y : Char}

/-- Two texts that begin with characters of one kind, as far as these reach, begin alike if they are
alike. -/
theorem eq_of_append_cons {p : Char → Bool} (ha : ∀ z ∈ a, p z = true) (hb : ∀ z ∈ b, p z = true)
    (hx : p x = false) (hy : p y = false) (h : a ++ x :: r = b ++ y :: s) :
    a = b ∧ x :: r = y :: s := by
  induction a generalizing b with
  | nil =>
    cases b with
    | nil => exact ⟨rfl, h⟩
    | cons z b =>
      obtain rfl : x = z := (List.cons.inj h).1
      rw [hb x List.mem_cons_self] at hx
      cases hx
  | cons z a ih =>
    obtain ⟨hz, ha⟩ := List.forall_mem_cons.1 ha
    cases b with
    | nil =>
      obtain rfl : z = y := (List.cons.inj h).1
      rw [hz] at hy
      cases hy
    | cons w b =>
      obtain ⟨hw, htail⟩ := List.cons.inj h
      obtain ⟨hsame, hrest⟩ := ih ha (List.forall_mem_cons.1 hb).2 htail
      exact ⟨by rw [hw, hsame], hrest⟩

theorem toList_label (id : NodeId) : id.label.toList = 'N' :: Nat.toDigits 10 id.index := by
  rw [NodeId.label, String.toList_append, Nat.toList_repr]
  rfl

/-- The number of a node can be read off if no digit follows. -/
theorem eq_of_label_append {first second : NodeId} (hx : x.isDigit = false)
    (hy : y.isDigit = false) (h : first.label.toList ++ x :: r = second.label.toList ++ y :: s) :
    first = second ∧ x :: r = y :: s := by
  have hdigits (n : Nat) : ∀ z ∈ Nat.toDigits 10 n, z.isDigit = true := fun z hz ↦
    Nat.isDigit_of_mem_toDigits (by decide) (by decide) hz
  rw [toList_label, toList_label] at h
  obtain ⟨hsame, hrest⟩ := eq_of_append_cons (hdigits _) (hdigits _) hx hy (List.cons.inj h).2
  have hindex : first.index = second.index := by
    rw [← @Nat.ofDigitChars_ten_toDigits first.index, hsame, Nat.ofDigitChars_ten_toDigits]
  cases first
  cases second
  exact ⟨congrArg NodeId.mk hindex, hrest⟩

/-! ### Names -/

/-- How the line of a node ends. -/
def lineEnd : List Char := ['"', ']', ';', '\n']

/-- How a line begins. -/
def lineStart : List Char := [' ', ' ', 'N']

/-- A name that contains the end of a node's line together with the beginning of another line. -/
def RunsOn (name : String) : Prop := lineEnd ++ lineStart <:+: name.toList

instance (name : String) : Decidable (RunsOn name) := inferInstanceAs (Decidable (_ <:+: _))

/-- What may follow the line of a node: another line, or the end of the drawing. -/
def Follows (r : List Char) : Prop := lineStart <+: r ∨ r = ['\x7d', '\n']

/-- A text between the places where two lines may end is empty, unless it ends a line and begins
another one. -/
theorem eq_nil_of_lineEnd (hr : Follows r) (hc : ¬lineEnd ++ lineStart <:+: c)
    (h : lineEnd ++ r = c ++ (lineEnd ++ s)) : c = [] := by
  -- The quotation mark stands only at the beginning of the end of a line.
  rcases c with _ | ⟨_, _ | ⟨_, _ | ⟨_, _ | ⟨_, c⟩⟩⟩⟩
  · rfl
  · simp [lineEnd] at h
  · simp [lineEnd] at h
  · simp [lineEnd] at h
  simp only [lineEnd, List.cons_append, List.nil_append, List.cons.injEq] at h
  obtain ⟨rfl, rfl, rfl, rfl, rfl⟩ := h
  rcases hr with ⟨q, hq⟩ | hend
  · rcases c with _ | ⟨_, _ | ⟨_, _ | ⟨_, c⟩⟩⟩
    · simp [lineStart] at hq
    · simp [lineStart] at hq
    · simp [lineStart] at hq
    simp only [lineStart, List.cons_append, List.nil_append, List.cons.injEq] at hq
    obtain ⟨rfl, rfl, rfl, -⟩ := hq
    exact absurd ⟨[], c, rfl⟩ hc
  · have hlength := congrArg List.length hend
    simp at hlength
    omega

/-- A name can be read off if it does not run on. -/
theorem eq_of_append_lineEnd (ha : ¬lineEnd ++ lineStart <:+: a)
    (hb : ¬lineEnd ++ lineStart <:+: b) (hr : Follows r) (hs : Follows s)
    (h : a ++ (lineEnd ++ r) = b ++ (lineEnd ++ s)) : a = b ∧ r = s := by
  -- One of the names begins with the other.
  rcases List.append_eq_append_iff.1 h with ⟨c, rfl, hc⟩ | ⟨c, rfl, hc⟩
  · have hnil := eq_nil_of_lineEnd hr (fun hinside ↦ hb (hinside.trans
      (List.suffix_append a c).isInfix)) hc
    rw [hnil] at hc
    exact ⟨by rw [hnil, List.append_nil], List.append_cancel_left hc⟩
  · have hnil := eq_nil_of_lineEnd hs (fun hinside ↦ ha (hinside.trans
      (List.suffix_append b c).isInfix)) hc
    rw [hnil] at hc
    exact ⟨by rw [hnil, List.append_nil], (List.append_cancel_left hc).symm⟩

end Reading

/-- What a drawing shows of a node. -/
def Node.caption (node : Node) : NodeId × String := (node.id, node.kernelName)

namespace Graph

/-! ## Reading drawings -/

/-- The line of an edge. -/
def edgeLine (edge : Edge) : List Char := (dotEdge edge.source.label edge.target.label).toList

/-- The line of a node. -/
def nodeLine (node : Node) : List Char := (dotNode node).toList

/-- The lines of edges, and the end of the drawing. -/
def edgeLines (edges : List Edge) : List Char := edges.flatMap edgeLine ++ ['\x7d', '\n']

theorem toList_dot (graph : Graph) : (graph.dot false).toList =
    "digraph \x7b\n".toList ++ (graph.nodes.flatMap nodeLine ++ edgeLines graph.edges) := by
  rw [dot, if_neg Bool.false_ne_true]
  simp only [String.toList_append, String.toList_join, List.flatMap_append, List.flatMap_map,
    List.append_assoc]
  rfl

theorem edgeLine_append (edge : Edge) (r : List Char) : edgeLine edge ++ r = ' ' :: ' ' ::
    (edge.source.label.toList ++ ' ' :: '-' :: '>' :: ' ' ::
      (edge.target.label.toList ++ ';' :: '\n' :: r)) := by
  simp [edgeLine, dotEdge, dotLine]

theorem nodeLine_append (node : Node) (r : List Char) : nodeLine node ++ r = ' ' :: ' ' ::
    (node.id.label.toList ++ ' ' :: '[' :: ("label=\"".toList ++
      (node.id.label.toList ++ '\\' :: 'n' :: (node.kernelName.toList ++ (lineEnd ++ r))))) := by
  simp [nodeLine, dotNode, dotLine, lineEnd]

/-- After a line come other lines, and then the end. -/
theorem follows_lines (nodes : List Node) (edges : List Edge) :
    Follows (nodes.flatMap nodeLine ++ edgeLines edges) := by
  cases nodes with
  | cons node nodes =>
    rw [List.flatMap_cons, List.append_assoc, nodeLine_append, toList_label]
    exact .inl (List.prefix_append lineStart _)
  | nil =>
    cases edges with
    | nil => exact .inr rfl
    | cons edge edges =>
      rw [List.flatMap_nil, List.nil_append, edgeLines, List.flatMap_cons, List.append_assoc,
        edgeLine_append, toList_label]
      exact .inl (List.prefix_append lineStart _)

/-- The edges can be read off. -/
theorem eq_of_edgeLines {first second : List Edge} (h : edgeLines first = edgeLines second) :
    first = second := by
  have hends (edge : Edge) (edges : List Edge) :
      edgeLines (edge :: edges) ≠ edgeLines [] := by
    intro h
    rw [edgeLines, List.flatMap_cons, List.append_assoc, edgeLine_append] at h
    cases h
  induction first generalizing second with
  | nil =>
    cases second with
    | nil => rfl
    | cons edge edges => exact absurd h.symm (hends edge edges)
  | cons edge edges ih =>
    cases second with
    | nil => exact absurd h (hends edge edges)
    | cons edge' edges' =>
      rw [edgeLines, edgeLines, List.flatMap_cons, List.flatMap_cons, List.append_assoc,
        List.append_assoc, edgeLine_append, edgeLine_append] at h
      simp only [List.cons.injEq, true_and] at h
      obtain ⟨hsource, hrest⟩ := eq_of_label_append rfl rfl h
      simp only [List.cons.injEq, true_and] at hrest
      obtain ⟨htarget, hlines⟩ := eq_of_label_append rfl rfl hrest
      simp only [List.cons.injEq, true_and] at hlines
      have hedge : edge = edge' := by
        cases edge
        cases edge'
        exact congrArg₂ Edge.mk hsource htarget
      rw [hedge, ih hlines]

/-- An edge is not drawn like a node. -/
theorem edgeLines_ne (edges : List Edge) (node : Node) (r : List Char) :
    edgeLines edges ≠ nodeLine node ++ r := by
  rw [nodeLine_append]
  cases edges with
  | nil =>
    intro h
    cases h
  | cons edge edges =>
    rw [edgeLines, List.flatMap_cons, List.append_assoc, edgeLine_append]
    intro h
    simp only [List.cons.injEq, true_and] at h
    obtain ⟨-, hrest⟩ := eq_of_label_append rfl rfl h
    cases hrest

/-- The nodes and the edges can be read off if no name runs on. -/
theorem eq_of_lines {first second : List Node} {edges edges' : List Edge}
    (hfirst : ∀ node ∈ first, ¬RunsOn node.kernelName)
    (hsecond : ∀ node ∈ second, ¬RunsOn node.kernelName)
    (h : first.flatMap nodeLine ++ edgeLines edges =
      second.flatMap nodeLine ++ edgeLines edges') :
    first.map Node.caption = second.map Node.caption ∧ edges = edges' := by
  induction first generalizing second with
  | nil =>
    cases second with
    | nil => exact ⟨rfl, eq_of_edgeLines h⟩
    | cons node nodes =>
      rw [List.flatMap_cons, List.append_assoc] at h
      exact absurd h (edgeLines_ne edges node _)
  | cons node nodes ih =>
    obtain ⟨hnode, hnodes⟩ := List.forall_mem_cons.1 hfirst
    cases second with
    | nil =>
      rw [List.flatMap_cons, List.append_assoc] at h
      exact absurd h.symm (edgeLines_ne edges' node _)
    | cons node' nodes' =>
      obtain ⟨hnode', hnodes'⟩ := List.forall_mem_cons.1 hsecond
      rw [List.flatMap_cons, List.flatMap_cons, List.append_assoc, List.append_assoc,
        nodeLine_append, nodeLine_append] at h
      simp only [List.cons.injEq, true_and] at h
      obtain ⟨hid, hlabel⟩ := eq_of_label_append rfl rfl h
      rw [hid] at hlabel
      simp only [List.cons.injEq, true_and, List.append_cancel_left_eq] at hlabel
      obtain ⟨hsame, hrest⟩ := eq_of_append_lineEnd hnode hnode' (follows_lines nodes edges)
        (follows_lines nodes' edges') hlabel
      obtain ⟨hcaptions, hedges⟩ := ih hnodes hnodes' hrest
      have hcaption : node.caption = node'.caption :=
        congrArg₂ Prod.mk hid (String.toList_inj.1 hsame)
      exact ⟨by rw [List.map_cons, List.map_cons, hcaption, hcaptions], hedges⟩

/-- Two graphs that are drawn alike have the same nodes, with the same names and in the same order,
and the same edges, as long as no name of theirs runs on into the line of another node. -/
theorem faithful_dot {first second : Graph} (hfirst : ∀ node ∈ first.nodes, ¬RunsOn node.kernelName)
    (hsecond : ∀ node ∈ second.nodes, ¬RunsOn node.kernelName)
    (h : first.dot false = second.dot false) :
    first.nodes.map Node.caption = second.nodes.map Node.caption ∧ first.edges = second.edges := by
  have hlines := congrArg String.toList h
  rw [toList_dot, toList_dot] at hlines
  exact eq_of_lines hfirst hsecond (List.append_cancel_left hlines)

/-- An image, a copy of it and a copy of the copy, in a graph with a number of scalars. -/
def copyingTwice (scalars : Nat) : Graph :=
  let ref (data : Nat) : DataRef := { graph := ⟨0⟩, id := ⟨scalars + data⟩ }
  let copy (source target : Nat) : Operation :=
    .addNodeWithKernel { id := ⟨0⟩, kernel := Kernels.copyImage } [ref source, ref target]
  Operation.session ⟨0⟩ Operation.plainContext
    (List.replicate scalars (.createScalar (.u32 0)) ++
      [.create (.image 1 1 .u8), .createVirtual, .createVirtual, copy 0 1, copy 1 2])

/-- The scalars are not drawn, but the nodes and the edge between them are told. -/
theorem faithful_copyingTwice :
    (copyingTwice 0).dot false = (copyingTwice 2).dot false ∧
      (copyingTwice 0).nodes.map Node.caption = (copyingTwice 2).nodes.map Node.caption ∧
      (copyingTwice 0).edges = (copyingTwice 2).edges ∧ (copyingTwice 2).edges ≠ [] := by
  have hnames (scalars : Nat)
      (hkernels : (copyingTwice scalars).nodes.map Node.kernelName =
        [Kernels.copyImage.name, Kernels.copyImage.name]) :
      ∀ node ∈ (copyingTwice scalars).nodes, ¬RunsOn node.kernelName := by
    have hplain : ∀ name ∈ (copyingTwice scalars).nodes.map Node.kernelName, ¬RunsOn name := by
      rw [hkernels]
      decide +kernel
    exact fun node hnode ↦ hplain _ (List.mem_map_of_mem hnode)
  have hdot : (copyingTwice 0).dot false = (copyingTwice 2).dot false := by decide +kernel
  obtain ⟨hcaptions, hedges⟩ := faithful_dot (hnames 0 rfl) (hnames 2 rfl) hdot
  exact ⟨hdot, hcaptions, hedges, by decide +kernel⟩

/-- A graph with one node for each of some names. The kernels have no parameters. -/
def unconnected (names : List String) : Graph :=
  let kernel (name : String) : Kernel :=
    Kernel.ofExecute { name, description := "", parameters := [], tags := [] } (pure ())
  Operation.session ⟨0⟩ Operation.plainContext
    (names.map fun name ↦ .addNodeWithKernel { id := ⟨0⟩, kernel := kernel name } [])

/-- One node is drawn like two nodes. -/
theorem unfaithful_unconnected :
    (unconnected ["a\"];\n  N1 [label=\"N1\\nb"]).dot false = (unconnected ["a", "b"]).dot false ∧
      (unconnected ["a\"];\n  N1 [label=\"N1\\nb"]).nodes.map Node.caption ≠
        (unconnected ["a", "b"]).nodes.map Node.caption := by
  decide +kernel

end Graph

end ImageFlow
