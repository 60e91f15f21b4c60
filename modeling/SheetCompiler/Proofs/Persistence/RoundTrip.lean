import SheetCompiler.Persistence.Workbook
import SheetCompiler.Proofs.Address.Reading
import SheetCompiler.Proofs.Document.Standing
import SheetCompiler.Proofs.OrderedMap

/-!
# Workbooks are kept without loss

Whatever stands for the document of a workbook is decoded to that workbook. One lemma for each kind
of value says so, from addresses and literals up; for expressions it is an induction on the
expression.
-/

namespace SheetCompiler

open Document (Node Fields Decoder Gives Stands StandFields StandEntries StandItems gives_lift
  gives_pure)

variable {node : Node} {height : Nat}

theorem Address.gives_ofNode {a : Address} (bounded : a.InBounds) (h : Stands a.toNode node) :
    Gives (Address.ofNode node) height a := by
  refine Gives.bind (Stands.gives_asText h) ?_
  rw [bounded.parseFull?_text]
  exact gives_pure a

namespace Literal

theorem gives_ofFields {kind : String} {tree : Node} {l : Literal} {fields : Fields}
    (typed : ∀ {value}, Stands tree value → Gives (ofTyped kind value) height l)
    (h : StandFields [("type", .text kind), ("value", tree)] fields) :
    Gives (ofFields fields) height l := by
  obtain ⟨type, rest, rfl, first, h⟩ := h.exists_cons
  obtain ⟨value, rest, rfl, second, h⟩ := h.exists_cons
  obtain rfl := h.eq_nil
  refine (gives_lift rfl).bind (first.gives_asName.bind ((gives_lift rfl).bind ?_))
  exact typed second

/-- A literal is a record, and its fields are decoded to it. -/
theorem exists_fields (l : Literal) : ∃ fields, l.toNode = Node.record fields ∧
    ∀ {fields'} {height : Nat}, StandFields fields fields' → Gives (ofFields fields') height l := by
  cases l with
  | integer i => exact ⟨_, rfl, gives_ofFields fun h => h.gives_asInteger.bind (gives_pure _)⟩
  | number x => exact ⟨_, rfl, gives_ofFields fun h => h.gives_asNumber.bind (gives_pure _)⟩
  | text s => exact ⟨_, rfl, gives_ofFields fun h => h.gives_asText.bind (gives_pure _)⟩
  | boolean b => exact ⟨_, rfl, gives_ofFields fun h => h.gives_asBoolean.bind (gives_pure _)⟩

theorem gives_ofNode (l : Literal) (tag : Option Document.Tag)
    (h : Stands (l.toNode.withTag tag) node) (room : (l.toNode.withTag tag).height ≤ height) :
    Gives (ofNode node) height l := by
  obtain ⟨fields, record, decoded⟩ := l.exists_fields
  rw [record] at h room
  obtain ⟨below, rfl, -⟩ := Node.exists_height_record tag room
  obtain ⟨fields', stand, gives⟩ := h.gives_asRecord tag
  exact gives (decoded stand)

end Literal

namespace Formula

theorem BinaryOp.gives_ofNode (op : BinaryOp) (h : Stands (.text op.sign.text) node) :
    Gives (BinaryOp.ofNode node) height op := by
  have found : BinaryOp.all.find? (·.sign.text == op.sign.text) = some op := by
    cases op <;> decide +kernel
  refine Gives.bind h.gives_asName ?_
  rw [found]
  exact gives_pure op

theorem UnaryOp.gives_ofNode (op : UnaryOp) (h : Stands (.text op.sign.text) node) :
    Gives (UnaryOp.ofNode node) height op := by
  have found : UnaryOp.all.find? (·.sign.text == op.sign.text) = some op := by
    cases op <;> decide +kernel
  refine Gives.bind h.gives_asName ?_
  rw [found]
  exact gives_pure op

mutual

/-- The addresses in an expression, a range with its corners only. -/
def Expr.addresses : Expr → List Address
  | .literal _ => []
  | .cell address => [address]
  | .range first last => [first, last]
  | .binary _ left right => left.addresses ++ right.addresses
  | .unary _ operand => operand.addresses
  | .call _ args => addressesOf args

/-- The addresses in several expressions. -/
def addressesOf : List Expr → List Address
  | [] => []
  | e :: rest => e.addresses ++ addressesOf rest

end

/-- A field with the decoders of what is in it. -/
def partOf (field : String × Node) : String × Part :=
  (field.1, ⟨field.2, Expr.ofNode field.2, exprsOfNode field.2⟩)

theorem partsOf_eq (entries : List (Node × Node)) :
    partsOf entries = do
      let fields ← entries.mapM fun (key, value) => return (← key.asText, value)
      return fields.map partOf := by
  induction entries with
  | nil => rfl
  | cons entry rest ih =>
      rw [partsOf, ih]
      simp [partOf]

/-- A tagged record is decoded by its parts. -/
theorem exists_gives_ofNode {kind : String} {fields : Fields}
    (h : Stands ((Node.record fields).named kind) node) :
    ∃ fields', StandFields fields fields' ∧
      ∀ {e : Expr}, Gives (Expr.ofParts kind (fields'.map partOf)) height e →
        Gives (Expr.ofNode node) (height + 1) e := by
  cases h with
  | mapping all =>
      obtain ⟨fields', stand, gives⟩ := all.gives_fields
      refine ⟨fields', stand, ?_⟩
      intro e decoded
      rw [Expr.ofNode, partsOf_eq]
      exact ((gives.bind (gives_pure (fields'.map partOf))).bind decoded).nested

mutual

/-- What stands for the document of an expression is decoded to the expression. -/
theorem Expr.gives_ofNode : (e : Expr) → (∀ a ∈ e.addresses, a.InBounds) →
    {node : Node} → Stands e.toNode node → {height : Nat} → e.toNode.height ≤ height →
    Gives (Expr.ofNode node) height e
  | .literal l, bounded, node, h, height, room => by
      obtain ⟨fields, record, decoded⟩ := l.exists_fields
      rw [Expr.toNode, record] at h room
      obtain ⟨below, rfl, -⟩ := Node.exists_height_record _ room
      obtain ⟨fields', stand, gives⟩ := exists_gives_ofNode h
      apply gives
      -- The parts of a literal are taken as nodes again, not as expressions.
      have nodes : (fields'.map partOf).map (fun part => (part.1, part.2.node)) = fields' := by
        simp [partOf, Function.comp_def]
      refine Gives.bind ?_ (gives_pure (Expr.literal l))
      rw [nodes]
      exact decoded stand
  | .cell a, bounded, node, h, height, room => by
      rw [Expr.toNode] at h
      cases h with
      | scalar spells =>
          rw [Expr.ofNode]
          refine (Address.gives_ofNode (bounded a List.mem_cons_self) (.scalar spells)).bind ?_
          exact gives_pure (Expr.cell a)
  | .range first last, bounded, node, h, height, room => by
      rw [Expr.toNode] at h room
      obtain ⟨below, rfl, -⟩ := Node.exists_height_record _ room
      obtain ⟨fields', stand, gives⟩ := exists_gives_ofNode h
      obtain ⟨near, rest, rfl, start, stand⟩ := stand.exists_cons
      obtain ⟨far, rest, rfl, stop, stand⟩ := stand.exists_cons
      obtain rfl := stand.eq_nil
      apply gives
      refine (gives_lift rfl).bind ?_
      refine (Address.gives_ofNode (bounded first List.mem_cons_self) start).bind ?_
      refine (gives_lift rfl).bind ?_
      refine (Address.gives_ofNode (bounded last (by simp [Expr.addresses])) stop).bind ?_
      exact gives_pure (Expr.range first last)
  | .binary op left right, bounded, node, h, height, room => by
      rw [Expr.toNode] at h room
      obtain ⟨below, rfl, inside⟩ := Node.exists_height_record _ room
      obtain ⟨fields', stand, gives⟩ := exists_gives_ofNode h
      obtain ⟨sign, rest, rfl, operator, stand⟩ := stand.exists_cons
      obtain ⟨first, rest, rfl, one, stand⟩ := stand.exists_cons
      obtain ⟨second, rest, rfl, other, stand⟩ := stand.exists_cons
      obtain rfl := stand.eq_nil
      rw [Expr.addresses, List.forall_mem_append] at bounded
      apply gives
      refine (gives_lift rfl).bind ((BinaryOp.gives_ofNode op operator).bind ?_)
      refine (gives_lift rfl).bind ((left.gives_ofNode bounded.1 one ?_).bind ?_)
      · exact inside ("left", left.toNode) (by simp)
      refine (gives_lift rfl).bind ((right.gives_ofNode bounded.2 other ?_).bind ?_)
      · exact inside ("right", right.toNode) (by simp)
      exact gives_pure (Expr.binary op left right)
  | .unary op operand, bounded, node, h, height, room => by
      rw [Expr.toNode] at h room
      obtain ⟨below, rfl, inside⟩ := Node.exists_height_record _ room
      obtain ⟨fields', stand, gives⟩ := exists_gives_ofNode h
      obtain ⟨sign, rest, rfl, operator, stand⟩ := stand.exists_cons
      obtain ⟨only, rest, rfl, one, stand⟩ := stand.exists_cons
      obtain rfl := stand.eq_nil
      rw [Expr.addresses] at bounded
      apply gives
      refine (gives_lift rfl).bind ((UnaryOp.gives_ofNode op operator).bind ?_)
      refine (gives_lift rfl).bind ((operand.gives_ofNode bounded one ?_).bind ?_)
      · exact inside ("operand", operand.toNode) (by simp)
      exact gives_pure (Expr.unary op operand)
  | .call name args, bounded, node, h, height, room => by
      rw [Expr.toNode] at h room
      obtain ⟨below, rfl, inside⟩ := Node.exists_height_record _ room
      obtain ⟨fields', stand, gives⟩ := exists_gives_ofNode h
      obtain ⟨called, rest, rfl, text, stand⟩ := stand.exists_cons
      obtain ⟨list, rest, rfl, items, stand⟩ := stand.exists_cons
      obtain rfl := stand.eq_nil
      rw [Expr.addresses] at bounded
      apply gives
      -- The arguments are one collection deeper than the other fields.
      have deep := inside ("args", .sequence none (nodesOf args)) (by simp)
      rw [Node.height] at deep
      refine (gives_lift rfl).bind (text.gives_asText.bind ((gives_lift rfl).bind ?_))
      cases items with
      | sequence all =>
          obtain ⟨deeper, rfl⟩ : ∃ deeper, below = deeper + 1 := ⟨below - 1, by omega⟩
          have decoded := gives_exprsOfItems args bounded all (Nat.le_of_succ_le_succ deep)
          refine Gives.bind ?_ (gives_pure (Expr.call name args))
          change Gives (exprsOfNode _) _ _
          rw [exprsOfNode]
          exact decoded.nested

theorem gives_exprsOfItems : (es : List Expr) → (∀ a ∈ addressesOf es, a.InBounds) →
    {items : List Node} → StandItems (nodesOf es) items → {height : Nat} →
    Document.heightOfItems (nodesOf es) ≤ height → Gives (exprsOfItems items) height es
  | [], bounded, items, h, height, room => by
      rw [nodesOf] at h
      cases h
      rw [exprsOfItems]
      exact gives_pure []
  | e :: rest, bounded, items, h, height, room => by
      rw [nodesOf] at h room
      rw [Document.heightOfItems] at room
      rw [addressesOf, List.forall_mem_append] at bounded
      cases h with
      | cons first others =>
          rw [exprsOfItems]
          refine (e.gives_ofNode bounded.1 first (by omega)).bind ?_
          refine (gives_exprsOfItems rest bounded.2 others (by omega)).bind ?_
          exact gives_pure (e :: rest)

end

end Formula

namespace Content

/-- The addresses in the content of a cell. -/
def addresses : Content → List Address
  | value _ => []
  | formula _ expr => expr.addresses

theorem gives_ofNode (c : Content) (bounded : ∀ a ∈ c.addresses, a.InBounds)
    (h : Stands c.toNode node) (room : c.toNode.height ≤ height) :
    Gives (ofNode node) height c := by
  cases c with
  | value l =>
      refine h.gives_follow.bind ?_
      have gives := l.gives_ofNode (some (.named "value")) h room
      obtain ⟨fields, record, -⟩ := l.exists_fields
      rw [toNode, record] at h
      refine (gives_lift h.alternative_eq).bind ?_
      exact gives.bind (gives_pure (Content.value l))
  | formula text expr =>
      refine h.gives_follow.bind ((gives_lift h.alternative_eq).bind ?_)
      obtain ⟨below, rfl, inside⟩ := Node.exists_height_record _ room
      obtain ⟨fields', stand, gives⟩ := h.gives_asRecord _
      obtain ⟨written, rest, rfl, spelled, stand⟩ := stand.exists_cons
      obtain ⟨tree, rest, rfl, read, stand⟩ := stand.exists_cons
      obtain rfl := stand.eq_nil
      apply gives
      refine (gives_lift rfl).bind (spelled.gives_asText.bind ((gives_lift rfl).bind ?_))
      refine (expr.gives_ofNode bounded read ?_).bind (gives_pure (Content.formula text expr))
      exact inside ("expr", expr.toNode) (by simp)

end Content

namespace Cell

/-- The fields of the document of a cell. -/
def fields (c : Cell) : Fields :=
  ("content", c.content.toNode)
    :: (optionalField "label" (c.label.map .text)
      ++ optionalField "cached" (c.cached.map Literal.toNode))

/-- Each field of a cell is given once, or left out where there is no value. -/
theorem all_fields (c : Cell) : Fields.all c.fields "content" = [c.content.toNode] ∧
    Fields.all c.fields "label" = (c.label.map Node.text).toList ∧
    Fields.all c.fields "cached" = (c.cached.map Literal.toNode).toList := by
  obtain ⟨content, label, cached⟩ := c
  cases label <;> cases cached <;> exact ⟨rfl, rfl, rfl⟩

theorem gives_ofNode (c : Cell) (bounded : ∀ a ∈ c.content.addresses, a.InBounds)
    (h : Stands c.toNode node) (room : c.toNode.height ≤ height) :
    Gives (ofNode node) height c := by
  obtain ⟨below, rfl, inside⟩ := Node.exists_height_record none room
  obtain ⟨fields', stand, gives⟩ := h.gives_asRecord none
  obtain ⟨content, label, cached⟩ := c.all_fields
  apply gives
  obtain ⟨node, stands, found⟩ := stand.exists_get content
  have within := inside ("content", c.content.toNode) List.mem_cons_self
  refine (gives_lift found).bind ((c.content.gives_ofNode bounded stands within).bind ?_)
  refine (stand.gives_optional label ?_).bind ((stand.gives_optional cached ?_).bind (gives_pure c))
  · intro s _ node stands
    exact ⟨stands.isAbsent_eq, stands.gives_asText⟩
  · intro l member node stands
    have within := inside ("cached", l.toNode) (by simp [optionalField, Option.mem_def.mp member])
    obtain ⟨written, record, -⟩ := l.exists_fields
    have untagged : l.toNode.withTag none = l.toNode := by rw [record]; rfl
    rw [← untagged] at stands within
    refine ⟨?_, l.gives_ofNode none stands within⟩
    rw [untagged, record] at stands
    exact stands.isAbsent_record

end Cell

namespace Workbook

/-- The addresses in a workbook: those of its cells and those in their formulas. -/
def addresses (w : Workbook) : List Address :=
  w.cells.toList.flatMap fun (address, cell) => address :: cell.content.addresses

/-- What stands for the document of a workbook is decoded to the workbook. -/
theorem gives_ofNode (w : Workbook) (bounded : ∀ a ∈ w.addresses, a.InBounds)
    (h : Stands w.toNode node) (room : w.toNode.height ≤ height) :
    Gives (ofNode node) height w := by
  obtain ⟨below, rfl, inside⟩ := Node.exists_height_record none room
  obtain ⟨fields', stand, gives⟩ := h.gives_asRecord none
  obtain ⟨name, rest, rfl, named, stand⟩ := stand.exists_cons
  obtain ⟨sheets, rest, rfl, listed, stand⟩ := stand.exists_cons
  obtain ⟨cells, rest, rfl, held, stand⟩ := stand.exists_cons
  obtain rfl := stand.eq_nil
  apply gives
  have deep := inside _ (List.mem_cons_of_mem _ (List.mem_cons_of_mem _ List.mem_cons_self))
  rw [Node.height] at deep
  obtain ⟨deeper, rfl⟩ : ∃ deeper, below = deeper + 1 := ⟨below - 1, by omega⟩
  refine (gives_lift rfl).bind (named.gives_asText.bind ((gives_lift rfl).bind ?_))
  refine Gives.bind (listed.gives_asItems fun s _ _ stands => stands.gives_asText) ?_
  refine (gives_lift rfl).bind (Gives.bind (held.gives_asEntries ?_) ?_)
  · intro entry member key value left right
    have inBounds : entry.1.InBounds := by
      apply bounded
      exact List.mem_flatMap.mpr ⟨entry, member, List.mem_cons_self⟩
    have within : ∀ a ∈ entry.2.content.addresses, a.InBounds := by
      intro a reference
      apply bounded
      exact List.mem_flatMap.mpr ⟨entry, member, List.mem_cons_of_mem _ reference⟩
    have low : entry.2.toNode.height ≤ deeper := by
      refine Nat.le_trans ?_ (Nat.le_of_succ_le_succ deep)
      exact Document.height_le_heightOfEntries (List.mem_map.mpr ⟨entry, member, rfl⟩)
    refine (Address.gives_ofNode inBounds left).bind ?_
    exact (entry.2.gives_ofNode within right low).bind (gives_pure entry)
  · rw [OrderedMap.ofList_toList]
    exact gives_pure w

/-- A workbook is kept without loss: where its addresses can be spelled, its document is not too
deep to be read and the library reads it back, what its text is read as is the workbook itself. -/
theorem ofText_toText {w : Workbook} (bounded : ∀ a ∈ w.addresses, a.InBounds)
    (shallow : w.toNode.height ≤ Document.depthLimit) (library : Document.ReadsBack w.toNode) :
    ofText w.toText = .ok w := by
  obtain ⟨node, limits, read, stands⟩ := library
  have room := Node.allows_of_ofText read shallow
  have decoded := w.gives_ofNode bounded stands le_rfl limits room
  have text : Document.decodeText ofNode w.toText = .ok w := by
    rw [Document.decodeText, toText, read]
    change (do return (← (ofNode node).run limits).1) = _
    rw [decoded]
    rfl
  rw [ofText, text]

/-- A sheet whose name has to be quoted, with a label, a cached value, a literal of each type and an
expression of each kind. -/
def ledger : Workbook where
  name := "m"
  sheets := ["it's"]
  cells := .ofList [
    (⟨"it's", 0, 0⟩, { content := .value (.integer 3), label := some "no" }),
    (⟨"it's", 0, 1⟩, {
      content := .formula "=SUM(A1:A2,TRUE)*-C1" (.binary .mul
        (.call "SUM" [.range ⟨"it's", 0, 0⟩ ⟨"it's", 1, 0⟩, .literal (.boolean true)])
        (.unary .neg (.cell ⟨"it's", 0, 2⟩)))
      cached := some (.number (-1.5)) }),
    (⟨"it's", 1, 0⟩, { content := .value (.text "3") })]

/-- The lines of its document. -/
def ledgerLines : List String :=
  ["name: m\n", "sheets:\n", "- it's\n", "cells:\n",
    "  '''it''''s''!A1':\n", "    content: !value\n", "      type: integer\n", "      value: 3\n",
    "    label: no\n",
    "  '''it''''s''!B1':\n", "    content: !formula\n", "      text: =SUM(A1:A2,TRUE)*-C1\n",
    "      expr: !binary_op\n", "        op: '*'\n", "        left: !function_call\n",
    "          name: SUM\n", "          args:\n", "          - !range_reference\n",
    "            start: '''it''''s''!A1'\n", "            end: '''it''''s''!A2'\n",
    "          - !literal\n", "            type: boolean\n", "            value: true\n",
    "        right: !unary_op\n", "          op: '-'\n",
    "          operand: !cell_reference '''it''''s''!C1'\n",
    "    cached:\n", "      type: number\n", "      value: -1.5\n",
    "  '''it''''s''!A2':\n", "    content: !value\n", "      type: text\n", "      value: '3'\n"]

theorem readsBack_ledger : Document.ReadsBack ledger.toNode := by
  have written : ledger.toNode.toText = String.join ledgerLines := by decide +kernel
  refine Document.readsBack_of_isReadAs ?_
  -- The reader goes through the characters of the lines, so that no text has to be decoded.
  rw [written, Node.ofText, Document.tokenize, String.toList_join]
  decide +kernel

theorem ledger_ofText_toText :
    (∀ a ∈ ledger.addresses, a.InBounds) ∧ ledger.toNode.height ≤ Document.depthLimit ∧
      Document.ReadsBack ledger.toNode ∧ ofText ledger.toText = .ok ledger := by
  have bounded : ∀ a ∈ ledger.addresses, a.InBounds := by
    have listed :
        ledger.addresses = [⟨"it's", 0, 0⟩, ⟨"it's", 0, 1⟩, ⟨"it's", 0, 0⟩, ⟨"it's", 1, 0⟩,
        ⟨"it's", 0, 2⟩, ⟨"it's", 1, 0⟩] := rfl
    rw [listed]
    simp only [List.forall_mem_cons]
    refine ⟨?_, ?_, ?_, ?_, ?_, ?_, nofun⟩ <;> exact ⟨by decide, by decide⟩
  have shallow : ledger.toNode.height ≤ Document.depthLimit := by decide +kernel
  exact ⟨bounded, shallow, readsBack_ledger, ofText_toText bounded shallow readsBack_ledger⟩

end Workbook

end SheetCompiler
