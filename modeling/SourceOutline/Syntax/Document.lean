import SourceOutline.Failure
import SourceOutline.Syntax.Node

/-!
# Documents and sites

A document is the content of a file with its finished syntax tree. A site is a node
together with the chain of nodes above it, nearest first: what a declaration means depends
on both.
-/

namespace SourceOutline

structure Document where
  content : ByteArray
  root : Node
  /-- The parser met text that it could not fit into the grammar. -/
  hasErrors : Bool := false
  deriving Inhabited

/-- A place in a source text: lines count from one, columns from zero and in bytes. -/
structure Position where
  line : Nat
  column : Nat
  deriving DecidableEq, Repr

structure Site where
  node : Node
  ancestors : List Node
  deriving Repr, Inhabited

namespace Site

abbrev type (site : Site) : String := site.node.type

def parent? (site : Site) : Option Site :=
  match site.ancestors with
  | [] => none
  | parent :: above => some ⟨parent, above⟩

/-- The site of a node known to be a child. -/
def below (site : Site) (child : Node) : Site := ⟨child, site.node :: site.ancestors⟩

def children (site : Site) : List Site := site.node.children.map site.below

def namedChildren (site : Site) : List Site := site.node.namedChildren.map site.below

def child? (site : Site) (field : String) : Option Site := (site.node.child? field).map site.below

end Site

namespace Document

/-- The source text of a node. -/
def text (document : Document) (node : Node) : Except Failure String :=
  (Text.decodeUtf8 (document.content.extract node.head.start node.head.stop)).mapError .undecodable

/-- The source text of a child that may be absent; the text of an absent one is empty. -/
def text? (document : Document) : Option Node → Except Failure String
  | some node => document.text node
  | none => .ok ""

/-- Where a node begins. -/
def position (document : Document) (node : Node) : Position :=
  let before := (document.content.extract 0 node.head.start).toList
  let lineStart := before.length - (before.reverse.takeWhile (· != 10)).length
  { line := before.count 10 + 1, column := node.head.start - lineStart }

mutual

/-- All sites of a tree in document order. -/
def sitesBelow (ancestors : List Node) : Node → List Site
  | ⟨head, children⟩ =>
    ⟨⟨head, children⟩, ancestors⟩ :: sitesBelowAll (⟨head, children⟩ :: ancestors) children

def sitesBelowAll (ancestors : List Node) : List Node → List Site
  | [] => []
  | node :: nodes => sitesBelow ancestors node ++ sitesBelowAll ancestors nodes

end

def rootSite (document : Document) : Site := ⟨document.root, []⟩

def sites (document : Document) : List Site := sitesBelow [] document.root

/-- The site of the node with an id. -/
def site? (document : Document) (id : Nat) : Option Site :=
  document.sites.find? (fun site => site.node.id == id)

theorem id_of_site? {document : Document} {id : Nat} {site : Site}
    (found : document.site? id = some site) : site.node.id = id := by
  have tested := List.find?_some found
  exact beq_iff_eq.mp tested

end Document

end SourceOutline
