import RestLoom.Emit.Client
import RestLoom.Proofs.Token.Tree
import RestLoom.Service.Extract

/-!
# Proofs/Emit/Stripping — a trait without its markers

    #[rest_client] trait A { #[get("/a")] fn a(&self, #[query] b: u8); }
      ──serviceTrait──▸  #[::refit::async_trait] trait A: Send + Sync { fn a(&self, b: u8); }

What a trait is written as is a row of parts: the attributes, each of them with the place where it
stands, and the atoms between them (`spells_traitParts`).  The trait of a service has the same parts
in the same order, but for the markers, which are gone, an attribute and the bounds that were
missing (`serviceTrait_exact`).  A receiver keeps its attributes, so that a marker stays there.
-/

namespace RestLoom.Emit

open RestLoom.Token (Atom atomsAll atomsAll_append Delimiter)
open RestLoom.Source
open RestLoom.Service (isServiceMarker isVerbMarker isParamMarker stripInput stripSignature
  stripTraitItem stripTrait)

/-! ## Parts of a trait -/

/-- Where an attribute stands. -/
inductive Spot where
  | trait
  | method
  | receiver
  | param

/-- A part of a trait as it is written: an attribute, or an atom that belongs to none. -/
inductive Part where
  | on (p : Spot) (a : Attribute)
  | other (a : Atom)

/-- The atoms that a part is written with. -/
def Part.atoms : Part → List Atom
  | on _ a => atomsAll a.toNode.tokens
  | other a => [a]

/-- The attributes that stand before a declaration, as parts. -/
def outerParts (p : Spot) (as : List Attribute) : List Part :=
  (as.filter fun a => !a.inner).map (.on p)

/-- The attributes that stand inside a declaration, as parts. -/
def innerParts (p : Spot) (as : List Attribute) : List Part :=
  (as.filter (·.inner)).map (.on p)

/-- Source trees as parts. -/
def nodeParts (ns : List Node) : List Part := (atomsAll (Node.tokensAll ns)).map .other

/-- Parts between delimiters. -/
def enclosed (d : Delimiter) (ps : List Part) : List Part :=
  .other (.opens d) :: (ps ++ [.other (.closes d)])

/-- Parts with a separator between neighbours, and after the last ones if `trailing`. -/
def joined (separator : String) (trailing : Bool) : List (List Part) → List Part
  | [] => []
  | [ps] => if trailing then ps ++ nodeParts [.op separator] else ps
  | ps :: pss => ps ++ (nodeParts [.op separator] ++ joined separator trailing pss)

/-- The parts of an entry of a parameter list. -/
def inputParts : Input → List Part
  | .receiver r => outerParts .receiver r.attributes ++
      nodeParts (Input.receiver { r with attributes := [] }).toNode.parts
  | .param p => outerParts .param p.attributes ++
      nodeParts (Input.param { p with attributes := [] }).toNode.parts

/-- What stands in a signature before the parameter list. -/
def frontNodes (s : Signature) : List Node :=
  Signature.keyword s.isConst "const" ++ Signature.keyword s.isAsync "async" ++
    Signature.keyword s.isUnsafe "unsafe" ++ s.abi.toList ++ [.word "fn", .ident s.name] ++
    s.generics.toList

/-- What stands in a signature after the parameter list. -/
def backNodes (s : Signature) : List Node :=
  (match s.output with
    | none => []
    | some t => [.phrase .returnType [.op "->", t]]) ++ s.whereClause.toList

/-- The parts of a signature. -/
def signatureParts (s : Signature) : List Part :=
  nodeParts (frontNodes s) ++
    enclosed .paren (joined "," (s.trailingComma || s.variadic.isSome) (s.inputs.map inputParts) ++
      nodeParts s.variadic.toList) ++
    nodeParts (backNodes s)

/-- The parts of a method's body, or of the semicolon in its place. -/
def bodyParts (m : Method) : List Part :=
  match m.body with
  | some stmts => enclosed .brace (innerParts .method m.attributes ++ nodeParts stmts)
  | none => nodeParts [.op ";"]

/-- The parts of an item of a trait.  One that is kept as a source tree is not opened: attributes in
it are atoms like all others. -/
def traitItemParts : TraitItem → List Part
  | .method m => outerParts .method m.attributes ++ signatureParts m.signature ++ bodyParts m
  | .other n => nodeParts [n]

/-- What stands in a trait between its attributes and its bounds. -/
def headNodes (t : TraitDecl) : List Node :=
  t.visibility.toNodes ++ Signature.keyword t.isUnsafe "unsafe" ++
    Signature.keyword t.isAuto "auto" ++ [.word "trait", .ident t.name] ++ t.generics.toList

/-- Bounds as a trait has them. -/
def boundNodes (bounds : List Node) (trailing : Bool) : List Node :=
  if bounds.isEmpty then []
  else [.op ":", .phrase .supertraits (separated "+" trailing bounds)]

/-- The parts of a trait after its bounds. -/
def contentParts (t : TraitDecl) : List Part :=
  nodeParts t.whereClause.toList ++
    enclosed .brace (innerParts .trait t.attributes ++ t.items.flatMap traitItemParts)

/-- **The parts of a trait**, in the order in which it is written. -/
def traitParts (t : TraitDecl) : List Part :=
  outerParts .trait t.attributes ++ nodeParts (headNodes t) ++
    nodeParts (boundNodes t.supertraits t.trailingPlus) ++ contentParts t

/-! ## What parts are written as -/

/-- Whether parts are what source trees are written as. -/
def Spells (ps : List Part) (ns : List Node) : Prop :=
  ps.flatMap Part.atoms = atomsAll (Node.tokensAll ns)

namespace Spells

variable {ps qs : List Part} {ns ms : List Node} {α : Type} {f : α → List Part} {g : α → Node}

theorem nodes (ns : List Node) : Spells (nodeParts ns) ns := by
  rw [Spells, nodeParts, List.flatMap_map]
  exact List.flatMap_singleton' (atomsAll (Node.tokensAll ns))

theorem append (hp : Spells ps ns) (hq : Spells qs ms) : Spells (ps ++ qs) (ns ++ ms) := by
  rw [Spells, List.flatMap_append, hp, hq, Node.tokensAll_append, atomsAll_append]

theorem phrase (k : Kind) (h : Spells ps ns) : Spells ps [.phrase k ns] := by
  rw [Spells, h, Node.tokensAll, Node.tokens, Node.tokensAll, List.append_nil]

theorem enclosed (d : Delimiter) (h : Spells ps ns) : Spells (enclosed d ps) [.group d ns] := by
  rw [Spells, Emit.enclosed, List.flatMap_cons, List.flatMap_append, h]
  simp [Part.atoms, Node.tokensAll, Node.tokens, atomsAll, Token.atoms]

theorem attributes (p : Spot) (as : List Attribute) :
    Spells (as.map (.on p)) (as.map Attribute.toNode) := by
  induction as with
  | nil => rfl
  | cons a as ih =>
    rw [Spells, List.map_cons, List.flatMap_cons, ih, List.map_cons, Node.tokensAll, atomsAll_append]
    rfl

theorem outer (p : Spot) (as : List Attribute) :
    Spells (outerParts p as) (Attribute.outerNodes as) := attributes p _

theorem inner (p : Spot) (as : List Attribute) :
    Spells (innerParts p as) (Attribute.innerNodes as) := attributes p _

theorem joined (separator : String) (trailing : Bool) (h : ∀ x, Spells (f x) [g x]) (xs : List α) :
    Spells (joined separator trailing (xs.map f)) (separated separator trailing (xs.map g)) := by
  induction xs with
  | nil => rfl
  | cons x xs ih =>
    cases xs with
    | nil =>
      cases trailing with
      | true => exact (h x).append (nodes [.op separator])
      | false => exact h x
    | cons y ys => exact (h x).append ((nodes [.op separator]).append ih)

theorem flatMap (h : ∀ x, Spells (f x) [g x]) (xs : List α) : Spells (xs.flatMap f) (xs.map g) := by
  induction xs with
  | nil => rfl
  | cons x xs ih => exact (h x).append ih

end Spells

theorem spells_inputParts (i : Input) : Spells (inputParts i) [i.toNode] := by
  cases i with
  | receiver r =>
    have h := ((Spells.outer .receiver r.attributes).append
      (.nodes (Input.receiver { r with attributes := [] }).toNode.parts)).phrase .receiver
    simpa [inputParts, Input.toNode, Node.parts, Attribute.outerNodes] using h
  | param p =>
    have h := ((Spells.outer .param p.attributes).append
      (.nodes (Input.param { p with attributes := [] }).toNode.parts)).phrase .param
    simpa [inputParts, Input.toNode, Node.parts, Attribute.outerNodes] using h

theorem toNode_signature (s : Signature) : s.toNode = .phrase .signature
    (frontNodes s ++ [.group .paren (separated "," (s.trailingComma || s.variadic.isSome)
      (s.inputs.map Input.toNode) ++ s.variadic.toList)] ++ backNodes s) := by
  rw [backNodes, ← List.append_assoc]
  rfl

theorem spells_signatureParts (s : Signature) : Spells (signatureParts s) [s.toNode] := by
  have hinputs := Spells.joined "," (s.trailingComma || s.variadic.isSome) spells_inputParts
    s.inputs
  rw [toNode_signature]
  exact (((Spells.nodes (frontNodes s)).append
    ((hinputs.append (.nodes s.variadic.toList)).enclosed .paren)).append
      (.nodes (backNodes s))).phrase .signature

theorem spells_bodyParts (m : Method) : Spells (bodyParts m) [match m.body with
    | some stmts => .group .brace (Attribute.innerNodes m.attributes ++ stmts)
    | none => .op ";"] := by
  rw [bodyParts]
  cases m.body with
  | some stmts => exact ((Spells.inner .method m.attributes).append (.nodes stmts)).enclosed .brace
  | none => exact .nodes [.op ";"]

theorem spells_traitItemParts (i : TraitItem) : Spells (traitItemParts i) [i.toNode] := by
  cases i with
  | method m =>
    have h := ((Spells.outer .method m.attributes).append
      (spells_signatureParts m.signature)).append (spells_bodyParts m)
    rw [List.append_assoc (Attribute.outerNodes m.attributes)] at h
    rw [TraitItem.toNode, Method.toNode]
    unfold functionNode
    rw [List.append_nil]
    exact h.phrase .fnItem
  | other n => exact .nodes [n]

/-- **The parts of a trait** are what it is written as. -/
theorem spells_traitParts (t : TraitDecl) : Spells (traitParts t) [t.toNode] := by
  have hcontent := (Spells.nodes t.whereClause.toList).append
    (((Spells.inner .trait t.attributes).append
      (.flatMap spells_traitItemParts t.items)).enclosed .brace)
  have h := ((((Spells.outer .trait t.attributes).append (.nodes (headNodes t))).append
    (.nodes (boundNodes t.supertraits t.trailingPlus))).append hcontent).phrase .traitItem
  simpa [traitParts, contentParts, TraitDecl.toNode, headNodes, boundNodes] using h

/-! ## Markers among parts -/

/-- Which attributes are markers at a place. -/
def Spot.marks : Spot → Attribute → Bool
  | .trait => isServiceMarker
  | .method => isVerbMarker
  | .receiver => isParamMarker
  | .param => isParamMarker

namespace Part

/-- Whether a part is a marker: an attribute at a place where markers of its kind belong. -/
def isMarker : Part → Bool
  | on p a => p.marks a
  | other _ => false

/-- Whether a part is an attribute of a receiver. -/
def onReceiver : Part → Bool
  | on .receiver _ => true
  | _ => false

end Part

/-- **What is kept** of parts when markers are removed: all but the markers, and those on
receivers. -/
def kept (ps : List Part) : List Part := ps.filter fun p => p.onReceiver || !p.isMarker

theorem kept_append (ps qs : List Part) : kept (ps ++ qs) = kept ps ++ kept qs :=
  List.filter_append _ _

theorem kept_nodeParts (ns : List Node) : kept (nodeParts ns) = nodeParts ns := by
  rw [kept, List.filter_eq_self, nodeParts]
  intro p hp
  obtain ⟨a, -, rfl⟩ := List.mem_map.mp hp
  rfl

theorem kept_enclosed (d : Delimiter) (ps : List Part) :
    kept (enclosed d ps) = enclosed d (kept ps) := by
  rw [kept, enclosed, List.filter_cons_of_pos rfl, List.filter_append]
  rfl

theorem kept_joined (separator : String) (trailing : Bool) (pss : List (List Part)) :
    kept (joined separator trailing pss) = joined separator trailing (pss.map kept) := by
  induction pss with
  | nil => rfl
  | cons ps pss ih =>
    cases pss with
    | nil =>
      cases trailing with
      | true => exact (kept_append _ _).trans (congrArg (kept ps ++ ·) (kept_nodeParts _))
      | false => rfl
    | cons qs pss =>
      change kept (ps ++ (nodeParts [.op separator] ++ joined separator trailing (qs :: pss))) = _
      rw [kept_append, kept_append, kept_nodeParts, ih]
      rfl

/-- Attributes are kept as parts when they are kept as attributes. -/
theorem kept_map_on (p : Spot) (as : List Attribute) : kept (as.map (.on p)) =
    (as.filter fun a => (Part.on p a).onReceiver || !p.marks a).map (.on p) := by
  rw [kept, List.filter_map]
  rfl

theorem kept_outerParts (p : Spot) (as : List Attribute) : kept (outerParts p as) =
    outerParts p (as.filter fun a => (Part.on p a).onReceiver || !p.marks a) := by
  rw [outerParts, outerParts, kept_map_on, List.filter_filter, List.filter_filter]
  simp only [Bool.and_comm]

theorem kept_innerParts (p : Spot) (as : List Attribute) : kept (innerParts p as) =
    innerParts p (as.filter fun a => (Part.on p a).onReceiver || !p.marks a) := by
  rw [innerParts, innerParts, kept_map_on, List.filter_filter, List.filter_filter]
  simp only [Bool.and_comm]

/-! ## A trait without markers -/

theorem inputParts_stripInput (i : Input) : inputParts (stripInput i) = kept (inputParts i) := by
  cases i with
  | receiver r =>
    have hall : r.attributes.filter (fun a => (Part.on .receiver a).onReceiver ||
        !Spot.receiver.marks a) = r.attributes := List.filter_eq_self.mpr fun _ _ => rfl
    rw [stripInput, inputParts, kept_append, kept_nodeParts, kept_outerParts, hall]
  | param p =>
    rw [stripInput, inputParts, inputParts, kept_append, kept_nodeParts, kept_outerParts]
    rfl

theorem signatureParts_stripSignature (s : Signature) :
    signatureParts (stripSignature s) = kept (signatureParts s) := by
  have hinputs : (s.inputs.map stripInput).map inputParts = (s.inputs.map inputParts).map kept := by
    rw [List.map_map, List.map_map]
    exact List.map_congr_left fun i _ => inputParts_stripInput i
  rw [signatureParts, signatureParts, kept_append, kept_append, kept_enclosed, kept_append,
    kept_joined, kept_nodeParts, kept_nodeParts, kept_nodeParts, ← hinputs]
  rfl

theorem traitItemParts_stripTraitItem (i : TraitItem) :
    traitItemParts (stripTraitItem i) = kept (traitItemParts i) := by
  cases i with
  | method m =>
    rw [stripTraitItem, traitItemParts, traitItemParts, kept_append, kept_append,
      kept_outerParts, signatureParts_stripSignature, bodyParts, bodyParts]
    cases m.body with
    | some stmts =>
      dsimp only
      rw [kept_enclosed, kept_append, kept_innerParts, kept_nodeParts]
      rfl
    | none =>
      dsimp only
      rw [kept_nodeParts]
      rfl
  | other n => exact (kept_nodeParts [n]).symm

theorem contentParts_stripTrait (t : TraitDecl) :
    contentParts (stripTrait t) = kept (contentParts t) := by
  have hitems : (t.items.map stripTraitItem).flatMap traitItemParts =
      kept (t.items.flatMap traitItemParts) := by
    rw [kept, List.filter_flatMap, List.flatMap_map]
    exact congrArg (t.items.flatMap ·) (funext traitItemParts_stripTraitItem)
  rw [contentParts, contentParts, kept_append, kept_enclosed, kept_append, kept_nodeParts,
    kept_innerParts, ← hitems]
  rfl

/-- **Without markers** a trait has the parts that are kept. -/
theorem traitParts_stripTrait (t : TraitDecl) : traitParts (stripTrait t) = kept (traitParts t) := by
  rw [traitParts, traitParts, kept_append, kept_append, kept_append, kept_nodeParts, kept_nodeParts,
    contentParts_stripTrait, kept_outerParts]
  rfl

theorem stripInput_stripInput (i : Input) : stripInput (stripInput i) = stripInput i := by
  cases i with
  | receiver r => rfl
  | param p =>
    rw [stripInput, stripInput, List.filter_filter]
    simp only [Bool.and_self]

theorem stripTraitItem_stripTraitItem (i : TraitItem) :
    stripTraitItem (stripTraitItem i) = stripTraitItem i := by
  cases i with
  | method m =>
    have hinputs : (m.signature.inputs.map stripInput).map stripInput =
        m.signature.inputs.map stripInput := by
      rw [List.map_map]
      exact List.map_congr_left fun i _ => stripInput_stripInput i
    rw [stripTraitItem, stripTraitItem, stripSignature, stripSignature, List.filter_filter, hinputs]
    simp only [Bool.and_self]
  | other n => rfl

/-- **Removing markers twice** is removing them once. -/
theorem stripTrait_stripTrait (t : TraitDecl) : stripTrait (stripTrait t) = stripTrait t := by
  have hitems : (t.items.map stripTraitItem).map stripTraitItem = t.items.map stripTraitItem := by
    rw [List.map_map]
    exact List.map_congr_left fun i _ => stripTraitItem_stripTraitItem i
  rw [stripTrait, stripTrait, List.filter_filter, hitems]
  simp only [Bool.and_self]

/-! ## The trait of a service -/

/-- The bounds that a trait of a service needs and that no bound of the trait is named after. -/
def missingBounds (t : TraitDecl) : List Node :=
  (["Send", "Sync"].filter fun name => !t.supertraits.any (boundNamed name)).map markerBound

/-- **The trait of a service** is its trait without markers, with one more attribute and with the
missing bounds. -/
theorem serviceTrait_eq (t : TraitDecl) : serviceTrait t =
    { stripTrait t with
      attributes := (stripTrait t).attributes ++ [asyncTrait]
      supertraits := t.supertraits ++ missingBounds t
      trailingPlus := t.trailingPlus && (missingBounds t).isEmpty } := by
  have hsync (bounds : List Node) : (bounds ++ [markerBound "Send"]).any (boundNamed "Sync") =
      bounds.any (boundNamed "Sync") := by
    rw [List.any_append]
    exact Bool.or_false _
  rw [serviceTrait, missingBounds]
  dsimp only [requireBound, stripTrait]
  cases hSend : t.supertraits.any (boundNamed "Send") <;>
    cases hSync : t.supertraits.any (boundNamed "Sync") <;>
    simp [hSend, hSync, hsync]

theorem outerParts_append (p : Spot) (as bs : List Attribute) :
    outerParts p (as ++ bs) = outerParts p as ++ outerParts p bs := by
  rw [outerParts, List.filter_append, List.map_append]
  rfl

theorem innerParts_append (p : Spot) (as bs : List Attribute) :
    innerParts p (as ++ bs) = innerParts p as ++ innerParts p bs := by
  rw [innerParts, List.filter_append, List.map_append]
  rfl

/-- The new attribute stands before the trait, so that what follows the bounds stays the same. -/
theorem contentParts_serviceTrait (t : TraitDecl) :
    contentParts (serviceTrait t) = kept (contentParts t) := by
  rw [← contentParts_stripTrait, serviceTrait_eq, contentParts, innerParts_append]
  dsimp only
  rw [show innerParts .trait [asyncTrait] = [] from rfl, List.append_nil]
  rfl

/-- **The parts of the trait of a service**: those of its trait that are kept, with the attribute
after the others that stand before the trait, and the missing bounds after the others. -/
theorem traitParts_serviceTrait (t : TraitDecl) : traitParts (serviceTrait t) =
    kept (outerParts .trait t.attributes) ++ [.on .trait asyncTrait] ++ nodeParts (headNodes t) ++
      nodeParts (boundNodes (t.supertraits ++ missingBounds t)
        (t.trailingPlus && (missingBounds t).isEmpty)) ++
      kept (contentParts t) := by
  rw [traitParts, contentParts_serviceTrait, serviceTrait_eq, outerParts_append, kept_outerParts]
  rfl

/-! ## The markers that stay -/

variable {p : Part} {ps : List Part} {t : TraitDecl}

theorem isMarker_of_mem_nodeParts {ns : List Node} (h : p ∈ nodeParts ns) : p.isMarker = false := by
  obtain ⟨a, -, rfl⟩ := List.mem_map.mp h
  rfl

theorem mem_kept_of_isMarker (hp : p.isMarker = true) :
    p ∈ kept ps ↔ p ∈ ps ∧ p.onReceiver = true := by
  rw [kept, List.mem_filter, hp, Bool.not_true, Bool.or_false]

/-- **The markers that stay** are those of the receivers. -/
theorem mem_traitParts_serviceTrait (hp : p.isMarker = true) :
    p ∈ traitParts (serviceTrait t) ↔ p ∈ traitParts t ∧ p.onReceiver = true := by
  have hnodes (ns : List Node) : p ∉ nodeParts ns := fun h =>
    Bool.false_ne_true ((isMarker_of_mem_nodeParts h).symm.trans hp)
  have hasync : p ≠ .on .trait asyncTrait := by
    rintro rfl
    exact absurd hp (by decide)
  rw [traitParts_serviceTrait, traitParts]
  simp only [List.mem_append, List.mem_singleton, mem_kept_of_isMarker hp, hnodes, hasync, or_false,
    or_and_right]

/-- **What becomes of a trait**: it is written as its parts, and so is the trait of its service,
which has the parts that are kept, in their order, a new attribute behind those before the trait,
and the bounds it lacks behind the others.  No marker is left just when none stands on a receiver.
Removing markers a second time changes nothing. -/
theorem serviceTrait_exact (t : TraitDecl) :
    Spells (traitParts t) [t.toNode] ∧ Spells (traitParts (serviceTrait t)) [(serviceTrait t).toNode] ∧
    traitParts (stripTrait t) = kept (traitParts t) ∧
    stripTrait (stripTrait t) = stripTrait t ∧
    traitParts (serviceTrait t) =
      kept (outerParts .trait t.attributes) ++ [.on .trait asyncTrait] ++ nodeParts (headNodes t) ++
        nodeParts (boundNodes (t.supertraits ++ missingBounds t)
          (t.trailingPlus && (missingBounds t).isEmpty)) ++
        kept (contentParts t) ∧
    ((∀ p ∈ traitParts (serviceTrait t), p.isMarker = false) ↔
      ∀ p ∈ traitParts t, p.onReceiver = true → p.isMarker = false) := by
  refine ⟨spells_traitParts t, spells_traitParts _, traitParts_stripTrait t, stripTrait_stripTrait t,
    traitParts_serviceTrait t, fun h p hp hreceiver => ?_, fun h p hp => ?_⟩
  · refine Bool.eq_false_iff.mpr fun hmarker => Bool.eq_false_iff.mp (h p ?_) hmarker
    exact (mem_traitParts_serviceTrait hmarker).mpr ⟨hp, hreceiver⟩
  · refine Bool.eq_false_iff.mpr fun hmarker => ?_
    obtain ⟨hp, hreceiver⟩ := (mem_traitParts_serviceTrait hmarker).mp hp
    exact Bool.eq_false_iff.mp (h p hp hreceiver) hmarker

/-- A text with a service that has a marker on a receiver, and another one on a parameter. -/
def receiverSource : String :=
  "trait A \x7b\n    #[get(\x22/a\x22)]\n" ++
    "    fn a(#[query] &self, #[query] b: u8) -> Result<()>;\n\x7d\n"

theorem receiverSource_computed : (match File.ofText receiverSource with
    | .ok ⟨_, _, [.trait t]⟩ => (Service.extract t none).isOk &&
        (traitParts (serviceTrait t)).any Part.isMarker
    | _ => false) = true := by
  decide +kernel

/-- **A marker that stays**: the trait declares a service, and a receiver keeps its marker. -/
theorem exists_marked_receiver : ∃ file t, File.ofText receiverSource = .ok file ∧
    file.items = [.trait t] ∧ (∃ s, Service.extract t none = .ok s) ∧
    ∃ p ∈ traitParts (serviceTrait t), p.isMarker = true := by
  have h := receiverSource_computed
  split at h
  next interpreter attributes t hfile =>
    rw [Bool.and_eq_true, List.any_eq_true] at h
    refine ⟨_, t, hfile, rfl, ?_, h.2⟩
    cases hextract : Service.extract t none with
    | error e =>
      rw [hextract] at h
      cases h.1
    | ok s => exact ⟨s, rfl⟩
  next => cases h

end RestLoom.Emit
