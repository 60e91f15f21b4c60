import SheetCompiler.Document.Fault
import SheetCompiler.Document.Node

/-!
# Decoding documents

A decoder turns a node into a value. It may be held to limits, so that a short text cannot stand for
a huge document: how deep the collections that it reads are nested, and how many references it
follows. What it does not read counts for nothing. Without limits, a node without references is read
in full.
-/

namespace SheetCompiler.Document

/-- What a decoder may still use up. -/
structure Limits where
  /-- How many collections may be opened inside each other, if that is limited. -/
  depth : Option Nat := none
  /-- How many references may be followed, if that is limited. -/
  references : Option Nat := none
deriving Inhabited

/-- Computations that read nodes. -/
abbrev Decoder := StateT Limits (Except Fault)

namespace Decoder

/-- A computation one collection deeper. -/
def nested {α : Type} (decode : Decoder α) : Decoder α := do
  match (← get).depth with
  | none => decode
  | some 0 => throw .tooDeep
  | some (depth + 1) =>
    modify fun limits => { limits with depth := some depth }
    let value ← decode
    modify fun limits => { limits with depth := some (depth + 1) }
    return value

/-- Uses up one reference. -/
def countReference : Decoder Unit := do
  match (← get).references with
  | none => return ()
  | some 0 => throw .tooManyReferences
  | some (references + 1) => modify fun limits => { limits with references := some references }

/-- The node itself, or the one it refers to. -/
def follow : Node → Decoder Node
  | .reference target => do
    countReference
    return target
  | node => return node

/-- What a computation gives when nothing is limited. -/
def runUnlimited {α : Type} (decode : Decoder α) : Except Fault α :=
  (decode.run {}).map Prod.fst

end Decoder

end SheetCompiler.Document
