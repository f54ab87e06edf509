import ShadingExport.Graph.Basic

/-!
# Graphs of node trees

A node tree makes a graph if its node ids are distinct, both ends of every connection are nodes of
the tree, and no two connections lead to one input. `NodeTree.defect?` finds the first violation:
first in the order of the nodes, then in the order of the connections. A tree without one makes
`NodeTree.graph`, in which every connection is the link of its target.
-/

namespace ShadingExport

namespace NodeTree

/-- The id of the first node whose id an earlier one has, where `seen` are the ids of the nodes
before the list. -/
def repeatedId? (seen : List String) : List Node → Option String
  | [] => none
  | node :: rest =>
    if seen.contains node.id then some node.id else repeatedId? (node.id :: seen) rest

/-- The first defect of a list of connections, where `targets` are the targets of the connections
before the list. A missing end counts before a double link. -/
def connectionDefect? (ids : List String) (targets : List Endpoint) :
    List Connection → Option Defect
  | [] => none
  | connection :: rest =>
    if ids.contains connection.source.node && ids.contains connection.target.node then
      -- Two links lead to one input if node and socket agree; their sources do not matter.
      if targets.contains connection.target then
        some (.doubleLink connection.target.node connection.target.socket)
      else connectionDefect? ids (connection.target :: targets) rest
    else some (.missingNode connection.source.node connection.target.node)

/-- The ids of the nodes. -/
def ids (tree : NodeTree) : List String := tree.nodes.map Node.id

/-- The first defect of a tree. -/
def defect? (tree : NodeTree) : Option Defect :=
  ((repeatedId? [] tree.nodes).map Defect.duplicateNode).or
    (connectionDefect? tree.ids [] tree.connections)

/-- The links that lead to a node, by the name of the input. -/
def linksTo (tree : NodeTree) (id : String) : Table Link :=
  .ofList ((tree.connections.filter (·.target.node == id)).map fun connection =>
    (connection.target.socket, ⟨connection.source.node, connection.source.socket⟩))

/-- A node of the tree with the links that lead to it. -/
def shadingNode (tree : NodeTree) (node : Node) : ShadingNode :=
  { id := node.id
    kind := .ofIdname node.idname
    literals := node.inputs
    links := tree.linksTo node.id
    params := node.params
    image := node.image }

/-- The nodes of a tree with their links, defects or not. -/
def graph (tree : NodeTree) : Graph :=
  ⟨tree.nodes.map tree.shadingNode⟩

end NodeTree

/-- The graph of a tree, or the first defect of the tree. -/
def Graph.ofTree (tree : NodeTree) : Except TranslationError Graph :=
  match tree.defect? with
  | some defect => .error (.malformedGraph defect)
  | none => .ok tree.graph

end ShadingExport
