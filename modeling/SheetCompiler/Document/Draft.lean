import SheetCompiler.Document.Node

/-!
# Drafts of documents

A draft is a tree as it stands in a text, where a reference is only the number of an anchor. What
the numbers stand for is known at the end of the text, and then a draft is resolved into a node.
-/

namespace SheetCompiler.Document

/-- A tree whose references are numbers of anchors. -/
inductive Draft where
  | scalar (tag : Option Tag) (style : Style) (text : String)
  | sequence (tag : Option Tag) (items : List Draft)
  | mapping (tag : Option Tag) (entries : List (Draft × Draft))
  | reference (anchor : Nat)
deriving Inhabited

namespace Draft

/-- A missing value: a plain scalar without characters. -/
def missing : Draft :=
  .scalar none .plain ""

mutual

/-- The number of scalars, references and ends of collections. -/
def size : Draft → Nat
  | scalar .. | reference _ => 1
  | sequence _ items => sizeOfItems items + 2
  | mapping _ entries => sizeOfEntries entries + 2

/-- The size of several drafts. -/
def sizeOfItems : List Draft → Nat
  | [] => 0
  | item :: rest => item.size + sizeOfItems rest

/-- The size of several keys with their values. -/
def sizeOfEntries : List (Draft × Draft) → Nat
  | [] => 0
  | (key, value) :: rest => key.size + value.size + sizeOfEntries rest

end

mutual

/-- The node of a draft, when the anchors stand for the given nodes. -/
def resolve (anchors : List (Nat × Node)) : Draft → Node
  | scalar tag style text => .scalar tag (.spelled style text)
  | sequence tag items => .sequence tag (resolveItems anchors items)
  | mapping tag entries => .mapping tag (resolveEntries anchors entries)
  | reference anchor => match anchors.lookup anchor with
    | some target => .reference target
    | none => .cyclic

/-- The nodes of several drafts. -/
def resolveItems (anchors : List (Nat × Node)) : List Draft → List Node
  | [] => []
  | item :: rest => item.resolve anchors :: resolveItems anchors rest

/-- The nodes of several keys with their values. -/
def resolveEntries (anchors : List (Nat × Node)) : List (Draft × Draft) → List (Node × Node)
  | [] => []
  | (key, value) :: rest =>
    (key.resolve anchors, value.resolve anchors) :: resolveEntries anchors rest

end

/-- The nodes of anchored drafts, with references among them followed through so many levels. As
many levels as there are anchors suffice: a chain of more references meets an anchor twice, so it
has no end. -/
def resolveAnchors (drafts : List (Nat × Draft)) : Nat → List (Nat × Node)
  | 0 => []
  | levels + 1 =>
    let inner := resolveAnchors drafts levels
    drafts.map fun (anchor, draft) => (anchor, draft.resolve inner)

/-- The node of a draft beside the anchored drafts of its document. -/
def link (draft : Draft) (drafts : List (Nat × Draft)) : Node :=
  draft.resolve (resolveAnchors drafts drafts.length)

end Draft

end SheetCompiler.Document
