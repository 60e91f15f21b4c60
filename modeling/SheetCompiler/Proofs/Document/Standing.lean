import Mathlib.Data.List.Forall2
import SheetCompiler.Document.Reader
import SheetCompiler.Document.Schema
import SheetCompiler.Document.Writer
import SheetCompiler.Proofs.Except

/-!
# Documents that are read back

A tree that is written and read again comes back in another form: a value comes back as a spelling
of it, a text perhaps without quotes. `Stands` relates the tree that was written to the one that was
read, and a decoder gives the same for both. It does so within limits and leaves them as they were:
`Gives`.

Writing a tree and reading the text is the business of the document format. That it works for a tree
is `ReadsBack`.
-/

namespace SheetCompiler.Document

/-- The scalar that was read is a spelling of the one that was written. A text that stands bare
means nothing else. -/
inductive Spells : Scalar → Scalar → Prop
  | text {style style' : Style} {s : String}
      (safe : style' = .plain → Reading.ofPlain s = .text s) :
      Spells (.spelled style s) (.spelled style' s)
  | integer {i : Int} {s : String} (read : integer? s = some i) :
      Spells (.integer i) (.spelled .plain s)
  | number {x : Float} {s : String} (read : number? s = some x) :
      Spells (.number x) (.spelled .plain s)
  | boolean {b : Bool} {s : String} (read : truth? s = some b) :
      Spells (.boolean b) (.spelled .plain s)

mutual

/-- The node that was read stands for the tree that was written. -/
inductive Stands : Node → Node → Prop
  | scalar {tag : Option Tag} {value value' : Scalar} (spells : Spells value value') :
      Stands (.scalar tag value) (.scalar tag value')
  | sequence {tag : Option Tag} {items items' : List Node} (all : StandItems items items') :
      Stands (.sequence tag items) (.sequence tag items')
  | mapping {tag : Option Tag} {entries entries' : List (Node × Node)}
      (all : StandEntries entries entries') : Stands (.mapping tag entries) (.mapping tag entries')

/-- The nodes stand for the trees, one for one. -/
inductive StandItems : List Node → List Node → Prop
  | nil : StandItems [] []
  | cons {item item' : Node} {rest rest' : List Node} (first : Stands item item')
      (others : StandItems rest rest') : StandItems (item :: rest) (item' :: rest')

/-- The entries stand for the ones that were written, one for one. -/
inductive StandEntries : List (Node × Node) → List (Node × Node) → Prop
  | nil : StandEntries [] []
  | cons {key key' value value' : Node} {rest rest' : List (Node × Node)} (left : Stands key key')
      (right : Stands value value') (others : StandEntries rest rest') :
      StandEntries ((key, value) :: rest) ((key', value') :: rest')

end

section Checking

deriving instance DecidableEq for Reading

/-- Checks that a scalar is a spelling of another one. -/
def Scalar.isSpelledBy : Scalar → Scalar → Bool
  | .spelled _ s, .spelled style' s' =>
    s = s' && (style' ≠ .plain || Reading.ofPlain s = .text s)
  | .integer i, .spelled .plain s => integer? s = some i
  | .number x, .spelled .plain s => number? s = some x
  | .boolean b, .spelled .plain s => truth? s = some b
  | _, _ => false

mutual

/-- Checks that a node stands for a tree. -/
def Node.isReadAs : Node → Node → Bool
  | .scalar tag value, .scalar tag' value' => tag = tag' && value.isSpelledBy value'
  | .sequence tag items, .sequence tag' items' => tag = tag' && areReadAs items items'
  | .mapping tag entries, .mapping tag' entries' => tag = tag' && entriesReadAs entries entries'
  | _, _ => false

/-- Checks that nodes stand for trees, one for one. -/
def areReadAs : List Node → List Node → Bool
  | [], [] => true
  | item :: rest, item' :: rest' => item.isReadAs item' && areReadAs rest rest'
  | _, _ => false

/-- Checks that entries stand for others, one for one. -/
def entriesReadAs : List (Node × Node) → List (Node × Node) → Bool
  | [], [] => true
  | (key, value) :: rest, (key', value') :: rest' =>
    key.isReadAs key' && value.isReadAs value' && entriesReadAs rest rest'
  | _, _ => false

end

theorem spells_of_isSpelledBy {value value' : Scalar} (h : value.isSpelledBy value' = true) :
    Spells value value' := by
  rw [Scalar.isSpelledBy.eq_def] at h
  split at h
  · simp only [ne_eq, Bool.and_eq_true, Bool.or_eq_true, decide_eq_true_eq] at h
    obtain ⟨rfl, other | safe⟩ := h
    · exact .text fun plain => absurd plain other
    · exact .text fun _ => safe
  · exact .integer (of_decide_eq_true h)
  · exact .number (of_decide_eq_true h)
  · exact .boolean (of_decide_eq_true h)
  · cases h

mutual

theorem stands_of_isReadAs : (tree node : Node) → tree.isReadAs node = true → Stands tree node
  | .scalar _ value, .scalar _ value', h => by
      rw [Node.isReadAs, Bool.and_eq_true, decide_eq_true_eq] at h
      obtain ⟨rfl, spelled⟩ := h
      exact .scalar (spells_of_isSpelledBy spelled)
  | .sequence _ items, .sequence _ items', h => by
      rw [Node.isReadAs, Bool.and_eq_true, decide_eq_true_eq] at h
      obtain ⟨rfl, each⟩ := h
      exact .sequence (standItems_of_areReadAs items items' each)
  | .mapping _ entries, .mapping _ entries', h => by
      rw [Node.isReadAs, Bool.and_eq_true, decide_eq_true_eq] at h
      obtain ⟨rfl, each⟩ := h
      exact .mapping (standEntries_of_entriesReadAs entries entries' each)

theorem standItems_of_areReadAs :
    (trees nodes : List Node) → areReadAs trees nodes = true → StandItems trees nodes
  | [], [], _ => .nil
  | item :: rest, item' :: rest', h => by
      rw [areReadAs, Bool.and_eq_true] at h
      exact .cons (stands_of_isReadAs item item' h.1) (standItems_of_areReadAs rest rest' h.2)

theorem standEntries_of_entriesReadAs : (entries entries' : List (Node × Node)) →
    entriesReadAs entries entries' = true → StandEntries entries entries'
  | [], [], _ => .nil
  | (key, value) :: rest, (key', value') :: rest', h => by
      rw [entriesReadAs, Bool.and_eq_true, Bool.and_eq_true] at h
      exact .cons (stands_of_isReadAs key key' h.1.1) (stands_of_isReadAs value value' h.1.2)
        (standEntries_of_entriesReadAs rest rest' h.2)

end

end Checking

mutual

/-- How many collections are nested in a node, itself included. -/
def Node.height : Node → Nat
  | .scalar .. | .cyclic => 0
  | .sequence _ items => heightOfItems items + 1
  | .mapping _ entries => heightOfEntries entries + 1
  | .reference target => target.height

/-- The greatest height of several nodes. -/
def heightOfItems : List Node → Nat
  | [] => 0
  | item :: rest => max item.height (heightOfItems rest)

/-- The greatest height of several keys and values. -/
def heightOfEntries : List (Node × Node) → Nat
  | [] => 0
  | (key, value) :: rest => max (max key.height value.height) (heightOfEntries rest)

end

theorem height_le_heightOfEntries {key value : Node} {entries : List (Node × Node)}
    (h : (key, value) ∈ entries) : value.height ≤ heightOfEntries entries := by
  induction entries with
  | nil => cases h
  | cons entry rest ih =>
      obtain ⟨key', value'⟩ := entry
      rw [heightOfEntries]
      cases List.mem_cons.mp h with
      | inl first =>
          cases first
          omega
      | inr later =>
          have below := ih later
          omega

/-- Below a record there is room for what is in its fields. -/
theorem Node.exists_height_record {fields : List (String × Node)} (tag : Option Tag) {height : Nat}
    (room : ((record fields).withTag tag).height ≤ height) :
    ∃ below, height = below + 1 ∧ ∀ f ∈ fields, f.2.height ≤ below := by
  rw [record, withTag, Node.height] at room
  obtain ⟨below, rfl⟩ : ∃ below, height = below + 1 := ⟨height - 1, by omega⟩
  refine ⟨below, rfl, ?_⟩
  intro f member
  have entry : (text f.1, f.2) ∈ fields.map fun f => (text f.1, f.2) :=
    List.mem_map.mpr ⟨f, member, rfl⟩
  exact Nat.le_trans (height_le_heightOfEntries entry) (Nat.le_of_succ_le_succ room)

/-- There is room for so many nested collections. -/
def Limits.Allows (limits : Limits) (height : Nat) : Prop :=
  ∀ depth, limits.depth = some depth → height ≤ depth

/-- The text that is written for a tree is read as a document that stands for the tree. -/
def ReadsBack (tree : Node) : Prop :=
  ∃ node limits, Node.ofText tree.toText = .ok (node, limits) ∧ Stands tree node

/-- Whether a tree is read back can be found out by reading it. -/
theorem readsBack_of_isReadAs {tree : Node}
    (h : ((Node.ofText tree.toText).toOption.any fun read => tree.isReadAs read.1) = true) :
    ReadsBack tree := by
  cases result : Node.ofText tree.toText with
  | error fault =>
      rw [result] at h
      cases h
  | ok read =>
      rw [result] at h
      exact ⟨read.1, read.2, result, stands_of_isReadAs tree read.1 h⟩

/-- However a document is read, its collections may be nested as deep as the limit. -/
theorem Node.allows_of_ofText {text : String} {node : Node} {limits : Limits}
    (h : Node.ofText text = .ok (node, limits)) {height : Nat} (shallow : height ≤ depthLimit) :
    limits.Allows height := by
  simp only [Node.ofText, bind_eq_ok, pure_eq_ok, Prod.mk.injEq] at h
  obtain ⟨-, -, -, -, -, rfl⟩ := h
  rintro _ ⟨⟩
  exact shallow

/-- Where there is room for so many nested collections, the decoder gives this value and leaves the
limits as they were. -/
def Gives {α : Type} (decode : Decoder α) (height : Nat) (a : α) : Prop :=
  ∀ limits : Limits, limits.Allows height → decode.run limits = .ok (a, limits)

section Decoders

variable {α β : Type} {height : Nat} {a : α} {b : β}

theorem gives_pure (a : α) : Gives (pure a) height a :=
  fun _ _ => rfl

theorem Gives.bind {decode : Decoder α} {next : α → Decoder β} (first : Gives decode height a)
    (second : Gives (next a) height b) : Gives (decode >>= next) height b := by
  intro limits allowed
  rw [StateT.run_bind, first limits allowed]
  exact second limits allowed

theorem gives_lift {x : Except Fault α} (h : x = .ok a) : Gives (liftM x : Decoder α) height a := by
  intro limits allowed
  rw [h]
  rfl

/-- A collection takes up one level. -/
theorem Gives.nested {decode : Decoder α} (h : Gives decode height a) :
    Gives (Decoder.nested decode) (height + 1) a := by
  intro limits allowed
  obtain ⟨depth, references⟩ := limits
  cases depth with
  | none =>
      exact h _ (by intro depth limited; cases limited)
  | some depth =>
      have room := allowed depth rfl
      cases depth with
      | zero => omega
      | succ depth =>
          have inner :
              (decode.run ⟨some depth, references⟩) = .ok (a, ⟨some depth, references⟩) := by
            apply h
            intro d limited
            cases limited
            omega
          change (decode >>= fun value => do
            modify fun limits => { limits with depth := some (depth + 1) }
            return value).run ⟨some depth, references⟩ = _
          rw [StateT.run_bind, inner]
          rfl

theorem Gives.mapM {decode : β → Decoder α} {bs : List β} {as : List α}
    (h : List.Forall₂ (fun b a => Gives (decode b) height a) bs as) :
    Gives (bs.mapM decode) height as := by
  induction h with
  | nil => exact gives_pure []
  | cons first _ ih =>
      rw [List.mapM_cons]
      exact first.bind (ih.bind (gives_pure _))

end Decoders

section Nodes

variable {node : Node} {tag : Option Tag} {height : Nat}

theorem Stands.gives_asText {style : Style} {s : String}
    (h : Stands (.scalar tag (.spelled style s)) node) : Gives node.asText height s := by
  cases h with
  | scalar spells =>
      cases spells
      exact fun _ _ => rfl

theorem Stands.gives_asName {s : String} (h : Stands (.text s) node) :
    Gives node.asName height s := by
  cases h with
  | scalar spells =>
      cases spells
      exact fun _ _ => rfl

theorem toInt64_toInt (i : Int64) : toInt64 i.toInt = .ok i := by
  have low : decide (Int64.minValue.toInt ≤ i.toInt) = true := decide_eq_true i.minValue_le_toInt
  have high : decide (i.toInt ≤ Int64.maxValue.toInt) = true := decide_eq_true i.toInt_le
  rw [toInt64, low, high, Int64.ofInt_toInt]
  rfl

theorem Stands.gives_asInteger {i : Int64} (h : Stands (.scalar none (.integer i.toInt)) node) :
    Gives node.asInteger height i := by
  cases h with
  | scalar spells =>
      cases spells with
      | integer read =>
          simp only [Node.asInteger, Decoder.follow, pure_bind, Scalar.bare?, Option.bind_some,
            read]
          exact gives_lift (toInt64_toInt i)

theorem Stands.gives_asNumber {x : Float} (h : Stands (.scalar none (.number x)) node) :
    Gives node.asNumber height x := by
  cases h with
  | scalar spells =>
      cases spells with
      | number read =>
          simp only [Node.asNumber, Decoder.follow, pure_bind, Scalar.bare?, Option.bind_some, read]
          exact gives_pure x

theorem Stands.gives_asBoolean {b : Bool} (h : Stands (.scalar none (.boolean b)) node) :
    Gives node.asBoolean height b := by
  cases h with
  | scalar spells =>
      cases spells with
      | boolean read =>
          simp only [Node.asBoolean, Decoder.follow, pure_bind, Scalar.bare?, Option.bind_some,
            read]
          exact gives_pure b

/-- A text is present, also an empty one. -/
theorem Stands.isAbsent_eq {s : String} (h : Stands (.text s) node) :
    node.isAbsent = .ok false := by
  cases h with
  | scalar spells =>
      cases spells with
      | @text _ style _ safe =>
          cases style with
          | literal | quoted => rfl
          | plain =>
              have means := safe rfl
              rw [Reading.ofPlain] at means
              split at means
              case isTrue => cases means
              case isFalse some =>
                rw [Node.isAbsent]
                exact congrArg Except.ok (Bool.eq_false_iff.mpr some)

/-- What was read for a tree is no reference. -/
theorem Stands.gives_follow {tree : Node} (h : Stands tree node) :
    Gives (Decoder.follow node) height node := by
  cases h <;> exact gives_pure _

theorem Stands.gives_asOptional {α : Type} {decode : Node → Decoder α} {a : α} {tree : Node}
    (h : Stands tree node) (present : node.isAbsent = .ok false)
    (gives : Gives (decode node) height a) :
    Gives (node.asOptional decode) height (some a) := by
  refine h.gives_follow.bind ((gives_lift present).bind ?_)
  exact gives.bind (gives_pure (some a))

end Nodes

section Collections

variable {node : Node} {tag : Option Tag} {height : Nat}

/-- The fields have the same names, and what is under them stands for what was written. -/
def StandFields (fields fields' : Fields) : Prop :=
  List.Forall₂ (fun f f' => f.1 = f'.1 ∧ Stands f.2 f'.2) fields fields'

theorem StandEntries.gives_fields {fields : Fields} {entries : List (Node × Node)}
    (h : StandEntries (fields.map fun f => (.text f.1, f.2)) entries) :
    ∃ fields', StandFields fields fields' ∧
      Gives (entries.mapM fun e => do return (← e.1.asText, e.2)) height fields' := by
  induction fields generalizing entries with
  | nil =>
      cases h
      exact ⟨[], .nil, gives_pure []⟩
  | cons f rest ih =>
      cases h with
      | @cons _ key _ value _ _ left right others =>
          obtain ⟨fields', stand, gives⟩ := ih others
          refine ⟨(f.1, value) :: fields', .cons ⟨rfl, right⟩ stand, ?_⟩
          rw [List.mapM_cons]
          have first : Gives (do return (← key.asText, value)) height (f.1, value) :=
            left.gives_asText.bind (gives_pure _)
          exact first.bind (gives.bind (gives_pure ((f.1, value) :: fields')))

/-- A record is decoded by its fields. -/
theorem Stands.gives_asRecord {α : Type} {fields : Fields} (tag : Option Tag)
    (h : Stands ((Node.record fields).withTag tag) node) :
    ∃ fields', StandFields fields fields' ∧ ∀ {decode : Fields → Decoder α} {a : α},
      Gives (decode fields') height a → Gives (node.asRecord decode) (height + 1) a := by
  cases h with
  | mapping all =>
      obtain ⟨fields', stand, gives⟩ := all.gives_fields
      refine ⟨fields', stand, ?_⟩
      intro decode a decoded
      exact (gives.bind decoded).nested

theorem Stands.alternative_eq {fields : Fields} {kind : String}
    (h : Stands ((Node.record fields).named kind) node) : node.alternative = .ok kind := by
  cases h
  rfl

/-- A record is present. -/
theorem Stands.isAbsent_record {fields : Fields} (h : Stands (.record fields) node) :
    node.isAbsent = .ok false := by
  cases h
  rfl

theorem Stands.gives_asItems {α : Type} {decode : Node → Decoder α} {items : List α}
    {tree : α → Node} (h : Stands (.sequence tag (items.map tree)) node)
    (each : ∀ a ∈ items, ∀ {node}, Stands (tree a) node → Gives (decode node) height a) :
    Gives (node.asItems decode) (height + 1) items := by
  cases h with
  | @sequence _ _ items' all =>
      refine Gives.nested (Gives.mapM ?_)
      induction items generalizing items' with
      | nil =>
          cases all
          exact .nil
      | cons a rest ih =>
          cases all with
          | cons first others =>
              rw [List.forall_mem_cons] at each
              exact .cons (each.1 first) (ih each.2 others)

theorem Stands.gives_asEntries {α : Type} {decode : Node × Node → Decoder α} {items : List α}
    {left right : α → Node} (h : Stands (.mapping tag (items.map fun a => (left a, right a))) node)
    (each : ∀ a ∈ items, ∀ {key value}, Stands (left a) key → Stands (right a) value →
      Gives (decode (key, value)) height a) :
    Gives (node.asEntries fun entries => entries.mapM decode) (height + 1) items := by
  cases h with
  | @mapping _ _ entries' all =>
      refine Gives.nested (Gives.mapM ?_)
      induction items generalizing entries' with
      | nil =>
          cases all
          exact .nil
      | cons a rest ih =>
          cases all with
          | cons first second others =>
              rw [List.forall_mem_cons] at each
              exact .cons (each.1 first second) (ih each.2 others)

theorem StandFields.exists_cons {name : String} {tree : Node} {rest fields' : Fields}
    (h : StandFields ((name, tree) :: rest) fields') :
    ∃ node rest', fields' = (name, node) :: rest' ∧ Stands tree node ∧ StandFields rest rest' := by
  cases h with
  | @cons _ f' _ rest' first others =>
      obtain ⟨name', node⟩ := f'
      obtain ⟨rfl, stands⟩ := first
      exact ⟨node, rest', rfl, stands, others⟩

theorem StandFields.eq_nil {fields' : Fields} (h : StandFields [] fields') : fields' = [] := by
  cases h
  rfl

theorem StandFields.all {fields fields' : Fields} (h : StandFields fields fields') (name : String) :
    List.Forall₂ Stands (Fields.all fields name) (Fields.all fields' name) := by
  induction h with
  | nil => exact .nil
  | @cons f f' _ _ first _ ih =>
      obtain ⟨key, tree⟩ := f
      obtain ⟨key', node⟩ := f'
      obtain ⟨rfl, stands⟩ := first
      by_cases same : key = name
      · simpa [Fields.all, same] using List.Forall₂.cons stands ih
      · simpa [Fields.all, same] using ih

/-- A field that was written once is found. -/
theorem StandFields.exists_get {fields fields' : Fields} {name : String} {tree : Node}
    (h : StandFields fields fields') (written : Fields.all fields name = [tree]) :
    ∃ node, Stands tree node ∧ Fields.get fields' name = .ok node := by
  have read := h.all name
  rw [written] at read
  cases others : Fields.all fields' name with
  | nil => simp [others] at read
  | cons node rest =>
      rw [others] at read
      cases read with
      | cons first none =>
          cases none
          refine ⟨node, first, ?_⟩
          rw [Fields.get, Fields.get?, others]
          rfl

/-- A field that was left out where there is no value is found where there is one. -/
theorem StandFields.gives_optional {α : Type} {decode : Node → Decoder α} {fields fields' : Fields}
    {name : String} {value : Option α} {tree : α → Node} (h : StandFields fields fields')
    (written : Fields.all fields name = (value.map tree).toList)
    (each : ∀ a ∈ value, ∀ {node}, Stands (tree a) node →
      node.isAbsent = .ok false ∧ Gives (decode node) height a) :
    Gives (Fields.optional decode fields' name) height value := by
  have read := h.all name
  rw [written] at read
  rw [Fields.optional, Fields.get?]
  cases value with
  | none =>
      rw [List.forall₂_nil_left_iff.mp read]
      exact (gives_lift rfl).bind (gives_pure none)
  | some a =>
      cases others : Fields.all fields' name with
      | nil => simp [others] at read
      | cons node rest =>
          rw [others] at read
          cases read with
          | cons first none =>
              cases none
              obtain ⟨present, gives⟩ := each a rfl first
              exact (gives_lift rfl).bind (first.gives_asOptional present gives)

end Collections

end SheetCompiler.Document
