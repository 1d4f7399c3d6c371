import RestLoom.Proofs.Source.Advance
import RestLoom.Source.Grammar

/-!
# Proofs/Source/Productions — every production takes tokens from the front

    grammar n  ──▸  types · operands · operations · patterns · statements · items, each `Advances`

The productions of the language are composed of readers that take tokens from the front, so they do
the same, provided that those they refer to do (`Grammar.Advances`).  An induction on the depth of
nesting ties them together, as it does the grammar itself (`advances_grammar`).
-/

namespace RestLoom.Source

open RestLoom.Token (Ident Delimiter)

-- the search for an instance follows the text of a production, which may be long
set_option synthInstance.maxSize 100000

/-- Whether the productions that others refer to take tokens from the front. -/
class Grammar.Advances (g : Grammar) : Prop where
  type (allowPlus : Bool) : Source.Advances (g.type allowPlus)
  operand (braces : Bool) : Source.Advances (g.operand braces)
  operations (braces : Bool) (strength : Nat) (first : Node) :
    Source.Advances (g.operations braces strength first)
  pattern : Source.Advances g.pattern
  statements : Source.Advances g.statements
  ownStatements : Source.Advances g.ownStatements
  item : Source.Advances g.item

attribute [instance] Grammar.Advances.type Grammar.Advances.operand Grammar.Advances.operations
  Grammar.Advances.pattern Grammar.Advances.statements Grammar.Advances.ownStatements
  Grammar.Advances.item

variable (g : Grammar) [g.Advances]

instance : Advances g.expr := by
  unfold Grammar.expr
  infer_instance

instance : Advances g.headExpr := by
  unfold Grammar.headExpr
  infer_instance

instance : Advances g.block := by
  unfold Grammar.block
  infer_instance

instance : Advances g.ownBlock := by
  unfold Grammar.ownBlock
  infer_instance

/-! ## Attributes -/

instance : Advances plainPath := by
  unfold plainPath
  infer_instance

instance : Advances delimited := by
  refine advances_ahead_bind fun ts => ?_
  split <;> infer_instance

instance : Advances (attributeValue g) := by
  unfold attributeValue
  refine advances_bind inferInstance fun lone => ?_
  split <;> infer_instance

instance (inner : Bool) : Advances (attributeInside g inner) := by
  unfold attributeInside
  infer_instance

instance : Advances (outerAttribute g) := by
  unfold outerAttribute
  infer_instance

instance : Advances (outerAttributes g) := by
  unfold outerAttributes
  infer_instance

instance : Advances (innerAttributes g) := by
  unfold innerAttributes
  infer_instance

instance : Advances (outerAttributeNodes g) := by
  unfold outerAttributeNodes
  infer_instance

/-! ## Paths, types, bounds and generic parameters -/

instance : Advances restrictionAhead := by
  unfold restrictionAhead
  refine advances_bind inferInstance fun ts => ?_
  split <;> infer_instance

instance : Advances visibility := by
  unfold visibility
  infer_instance

instance (element : Reader Node) [Advances element] : Advances (angled element) := by
  unfold angled
  infer_instance

instance : Advances genericsAhead := by
  unfold genericsAhead
  infer_instance

instance : Advances genericsAfterWord := by
  unfold genericsAfterWord
  infer_instance

instance : Advances (constArgument g) := by
  unfold constArgument
  infer_instance

instance : Advances (parenArguments g) := by
  unfold parenArguments
  infer_instance

instance (allowed : Bool) : Advances (constModifier allowed) := by
  unfold constModifier
  infer_instance

instance : Advances captured := by
  refine advances_repeatStep fun acc => ?_
  dsimp only
  repeat' first
    | with_reducible refine advances_ite ?_ ?_
    | with_reducible refine advances_bind ?_ fun _ => ?_
    | split
    | infer_instance

instance (path : Node) : Advances (functionArguments g path) := by
  unfold functionArguments
  split <;> infer_instance

/-- Paths and bounds, by way of the bound on their nesting. -/
class PathsAdvance (fuel : Nat) : Prop where
  bound (place : BoundPlace) : Advances (boundUpTo g fuel place)
  traitBound (allowConst : Bool) : Advances (traitBoundUpTo g fuel allowConst)
  forLifetimes : Advances (forLifetimesUpTo g fuel)
  boundParam : Advances (boundParamUpTo g fuel)
  typeParam (attributes : List Node) : Advances (typeParamUpTo g fuel attributes)
  constParam (attributes : List Node) : Advances (constParamUpTo g fuel attributes)
  lifetimeParam (attributes : List Node) : Advances (lifetimeParamUpTo g fuel attributes)
  pathSegment (inExpr : Bool) : Advances (pathSegmentUpTo g fuel inExpr)
  genericArguments : Advances (genericArgumentsUpTo g fuel)
  genericArgument : Advances (genericArgumentUpTo g fuel)
  path (inExpr : Bool) : Advances (pathUpTo g fuel inExpr)
  pathRest (inExpr : Bool) : Advances (pathRestUpTo g fuel inExpr)

attribute [instance] PathsAdvance.bound PathsAdvance.traitBound PathsAdvance.forLifetimes
  PathsAdvance.boundParam PathsAdvance.typeParam PathsAdvance.constParam
  PathsAdvance.lifetimeParam PathsAdvance.pathSegment PathsAdvance.genericArguments
  PathsAdvance.genericArgument PathsAdvance.path PathsAdvance.pathRest

instance (fuel : Nat) : PathsAdvance g fuel := by
  induction fuel with
  | zero =>
    exact
      { bound := fun _ => by unfold boundUpTo; infer_instance
        traitBound := fun _ => by unfold traitBoundUpTo; infer_instance
        forLifetimes := by unfold forLifetimesUpTo; infer_instance
        boundParam := by unfold boundParamUpTo; infer_instance
        typeParam := fun _ => by unfold typeParamUpTo; infer_instance
        constParam := fun _ => by unfold constParamUpTo; infer_instance
        lifetimeParam := fun _ => by unfold lifetimeParamUpTo; infer_instance
        pathSegment := fun _ => by unfold pathSegmentUpTo; infer_instance
        genericArguments := by unfold genericArgumentsUpTo; infer_instance
        genericArgument := by unfold genericArgumentUpTo; infer_instance
        path := fun _ => by unfold pathUpTo; infer_instance
        pathRest := fun _ => by unfold pathRestUpTo; infer_instance }
  | succ fuel ih =>
    exact
      { bound := fun _ => by unfold boundUpTo; infer_instance
        traitBound := fun _ => by unfold traitBoundUpTo; infer_instance
        forLifetimes := by unfold forLifetimesUpTo; infer_instance
        boundParam := by unfold boundParamUpTo; infer_instance
        typeParam := fun _ => by unfold typeParamUpTo; infer_instance
        constParam := fun _ => by unfold constParamUpTo; infer_instance
        lifetimeParam := fun _ => by unfold lifetimeParamUpTo; infer_instance
        pathSegment := fun _ => by unfold pathSegmentUpTo; infer_instance
        genericArguments := by unfold genericArgumentsUpTo; infer_instance
        genericArgument := by
          unfold genericArgumentUpTo
          repeat' first
            | with_reducible refine advances_ite ?_ ?_
            | with_reducible refine advances_bind ?_ fun _ => ?_
            | split
            | infer_instance
        path := fun _ => by unfold pathUpTo; infer_instance
        pathRest := fun _ => by unfold pathRestUpTo; infer_instance }

instance : Advances pathFuel := by
  unfold pathFuel
  infer_instance

instance (place : BoundPlace) : Advances (bound g place) := by
  unfold bound
  infer_instance

instance : Advances (forLifetimes g) := by
  unfold forLifetimes
  infer_instance

instance (inExpr : Bool) : Advances (path g inExpr) := by
  unfold path
  infer_instance

instance : Advances (genericArguments g) := by
  unfold genericArguments
  infer_instance

instance (inExpr : Bool) : Advances (qualifiedPath g inExpr) := by
  unfold qualifiedPath
  infer_instance

instance : Advances boundFollows := by
  unfold boundFollows
  infer_instance

instance (place : BoundPlace) (first : Node) : Advances (moreBounds g place first) := by
  unfold moreBounds
  infer_instance

instance (first : Node) : Advances (boundsAfterParens g first) := by
  unfold boundsAfterParens
  infer_instance

instance (allowPlus : Bool) (place : BoundPlace) : Advances (boundList g allowPlus place) := by
  unfold boundList
  infer_instance

instance (allowPlus : Bool) : Advances (objectBounds g allowPlus) := by
  unfold objectBounds
  infer_instance

instance : Advances (refType g) := by
  unfold refType
  infer_instance

instance : Advances (ptrType g) := by
  unfold ptrType
  infer_instance

instance : Advances abi? := by
  unfold abi?
  infer_instance

instance (attributes : List Node) (isFirst : Bool) :
    Advances (fnTypeParam g attributes isFirst) := by
  unfold fnTypeParam
  infer_instance

instance (attributes : List Node) : Advances (fnTypeDots attributes) := by
  unfold fnTypeDots
  infer_instance

instance : Advances (fnTypeParams g) := by
  unfold fnTypeParams
  infer_instance

instance : Advances (returnTypeWithoutPlus g) := by
  unfold returnTypeWithoutPlus
  infer_instance

instance (binder : List Node) : Advances (fnType g binder) := by
  unfold fnType
  infer_instance

instance : Advances (insideParens g) := by
  unfold insideParens
  infer_instance

instance (allowPlus : Bool) : Advances (parenthesisedType g allowPlus) := by
  unfold parenthesisedType
  repeat' first
    | with_reducible refine advances_ite ?_ ?_
    | with_reducible refine advances_bind ?_ fun _ => ?_
    | split
    | infer_instance

instance (allowPlus : Bool) (binder : List Node) :
    Advances (pathStartedType g allowPlus binder) := by
  unfold pathStartedType
  infer_instance

instance (allowPlus : Bool) : Advances (objectType g allowPlus) := by
  unfold objectType
  infer_instance

instance (allowPlus : Bool) : Advances (typeWith g allowPlus) := by
  unfold typeWith
  infer_instance

instance : Advances (returnType? g) := by
  unfold returnType?
  infer_instance

instance : Advances (genericParam g) := by
  unfold genericParam
  infer_instance

instance : Advances (generics? g) := by
  unfold generics?
  infer_instance

instance : Advances predicateEnds := by
  unfold predicateEnds
  infer_instance

instance : Advances (predicate g) := by
  unfold predicate
  infer_instance

instance : Advances (whereClause? g) := by
  unfold whereClause?
  infer_instance

/-! ## Patterns -/

instance : Advances rangeOp := by
  unfold rangeOp
  infer_instance

instance (negative : Bool) (text : String) : Advances (fieldNumber negative text) := by
  unfold fieldNumber
  split <;> infer_instance

instance (test : String → Bool) : Advances (number? test) := by
  refine advances_ahead_bind fun ts => ?_
  split <;> infer_instance

instance : Advances member := by
  unfold member
  repeat' first
    | with_reducible refine advances_ite ?_ ?_
    | with_reducible refine advances_bind ?_ fun _ => ?_
    | split
    | infer_instance

instance : Advances (patterns g) := by
  unfold patterns
  infer_instance

instance : Advances noRangeBound := by
  unfold noRangeBound
  infer_instance

instance : Advances (rangeBound g) := by
  unfold rangeBound
  infer_instance

instance (start : List Node) : Advances (rangeFrom g start) := by
  unfold rangeFrom
  infer_instance

instance (attributes : List Node) : Advances (fieldPattern g attributes) := by
  unfold fieldPattern
  infer_instance

instance : Advances (fieldPatterns g) := by
  unfold fieldPatterns
  infer_instance

instance : Advances (pathPattern g) := by
  unfold pathPattern
  infer_instance

instance : Advances (sliceElement g) := by
  unfold sliceElement
  infer_instance

instance : Advances (identPattern g) := by
  unfold identPattern
  infer_instance

instance : Advances (singlePattern g) := by
  unfold singlePattern
  dsimp only
  repeat' first
    | with_reducible refine advances_ite ?_ ?_
    | with_reducible refine advances_bind ?_ fun _ => ?_
    | split
    | infer_instance

/-! ## Expressions -/

instance : Advances binaryOp? := by
  unfold binaryOp?
  infer_instance

instance : Advances strengthAhead := by
  unfold strengthAhead
  refine advances_bind inferInstance fun operator => ?_
  split <;> infer_instance

instance : Advances exprAhead := by
  unfold exprAhead
  infer_instance

instance : Advances (arguments g) := by
  unfold arguments
  infer_instance

instance : Advances (fieldValue g) := by
  unfold fieldValue
  infer_instance

instance : Advances (fieldValues g) := by
  unfold fieldValues
  infer_instance

instance (braces : Bool) : Advances (pathStartedExpr g braces) := by
  unfold pathStartedExpr
  infer_instance

instance : Advances (closureParam g) := by
  unfold closureParam
  infer_instance

instance (braces : Bool) : Advances (closureExpr g braces) := by
  unfold closureExpr
  infer_instance

instance (fuel : Nat) : Advances (ifUpTo g fuel) := by
  induction fuel with
  | zero =>
    unfold ifUpTo
    infer_instance
  | succ fuel ih =>
    unfold ifUpTo
    infer_instance

instance : Advances (ifExpr g) := by
  unfold ifExpr
  infer_instance

instance : Advances (whileExpr g) := by
  unfold whileExpr
  infer_instance

instance : Advances (forExpr g) := by
  unfold forExpr
  infer_instance

instance : Advances (loopExpr g) := by
  unfold loopExpr
  infer_instance

instance (k : Kind) (text : String) : Advances (keywordBlock g k text) := by
  unfold keywordBlock
  infer_instance

instance : Advances (tryBlock g) := by
  unfold tryBlock
  infer_instance

instance : Advances (labeledExpr g) := by
  unfold labeledExpr
  infer_instance

instance : Advances (parenExpr g) := by
  unfold parenExpr
  refine advances_bind inferInstance fun elements => ?_
  dsimp only
  split <;> infer_instance

instance : Advances (arrayExpr g) := by
  unfold arrayExpr
  infer_instance

instance : Advances (jumpOperand g) := by
  unfold jumpOperand
  infer_instance

instance (braces : Bool) : Advances (breakExpr g braces) := by
  unfold breakExpr
  infer_instance

instance : Advances (innerAttributeNodes g) := by
  unfold innerAttributeNodes
  infer_instance

instance (e dot : Node) : Advances (afterDot g e dot) := by
  unfold afterDot
  infer_instance

instance (e : Node) : Advances (dotted g e) := by
  unfold dotted
  refine advances_bind inferInstance fun dot => advances_bind inferInstance fun number => ?_
  split <;> infer_instance

instance (e : Node) : Advances (trailers g e) := by
  unfold trailers
  infer_instance

/-- Expressions at the start of a statement or after an arrow, by way of the bound on their
nesting. -/
class LeadingAdvance (fuel : Nat) : Prop where
  leadingExpr : Advances (leadingExprUpTo g fuel)
  choice : Advances (matchUpTo g fuel)
  arm : Advances (armUpTo g fuel)

attribute [instance] LeadingAdvance.leadingExpr LeadingAdvance.choice LeadingAdvance.arm

instance (fuel : Nat) : LeadingAdvance g fuel := by
  induction fuel with
  | zero =>
    exact
      { leadingExpr := by unfold leadingExprUpTo; infer_instance
        choice := by unfold matchUpTo; infer_instance
        arm := by unfold armUpTo; infer_instance }
  | succ fuel ih =>
    exact
      { leadingExpr := by
          unfold leadingExprUpTo
          refine advances_bind inferInstance fun _ => advances_bind inferInstance fun _ => ?_
          extract_lets rest
          have (block? : Option Node) : Advances (rest block?) := by
            dsimp only [rest]
            split <;> infer_instance
          infer_instance
        choice := by unfold matchUpTo; infer_instance
        arm := by unfold armUpTo; infer_instance }

instance : Advances (leadingExpr g) := by
  unfold leadingExpr
  infer_instance

instance : Advances (matchExpr g) := by
  unfold matchExpr
  infer_instance

instance : Advances exprRangeOp := by
  unfold exprRangeOp
  infer_instance

instance (braces : Bool) (strength : Nat) : Advances (rightOperand g braces strength) := by
  unfold rightOperand
  infer_instance

instance (braces : Bool) : Advances (rangeFromOp g braces) := by
  unfold rangeFromOp
  infer_instance

instance : Advances (keptExpr g) := by
  unfold keptExpr
  infer_instance

instance (braces : Bool) : Advances (atom g braces) := by
  unfold atom
  repeat' first
    | with_reducible refine advances_ite ?_ ?_
    | with_reducible refine advances_bind ?_ fun _ => ?_
    | split
    | infer_instance

instance (braces : Bool) : Advances (operandOf g braces) := by
  unfold operandOf
  infer_instance

instance : Advances checkCast := by
  unfold checkCast
  infer_instance

instance (braces : Bool) (base : Nat) (first : Node) :
    Advances (operationsOf g braces base first) := by
  unfold operationsOf
  refine advances_bind (advances_repeatStep fun acc => ?_) fun es => inferInstance
  dsimp only
  repeat' first
    | with_reducible refine advances_ite ?_ ?_
    | with_reducible refine advances_bind ?_ fun _ => ?_
    | split
    | infer_instance

/-! ## Statements -/

instance : Advances itemAhead := by
  unfold itemAhead
  infer_instance

instance : Advances leadingMacro := by
  unfold leadingMacro
  infer_instance

instance (attributes : List Node) : Advances (letStatement g attributes) := by
  unfold letStatement
  infer_instance

instance (attributes : List Node) : Advances (exprStatement g attributes) := by
  unfold exprStatement
  refine advances_bind inferInstance fun e => advances_bind inferInstance fun semicolon => ?_
  split <;> infer_instance

instance : Advances (statement g) := by
  refine advances_get_bind fun start => ?_
  refine keepsTo_bind inferInstance fun attributes => keepsTo_bind inferInstance fun macroKind => ?_
  dsimp only
  split <;> infer_instance

instance : Advances (statementsOf g) := by
  unfold statementsOf
  infer_instance

instance : Advances (blockInside g) := by
  unfold blockInside
  infer_instance

instance : Advances (ownStatementsOf g) := by
  unfold ownStatementsOf
  infer_instance

/-! ## Items -/

instance : Advances (receiverInput g) := by
  unfold receiverInput
  infer_instance

instance : Advances (entry g) := by
  unfold entry
  dsimp only
  repeat' first
    | with_reducible refine advances_ite ?_ ?_
    | with_reducible refine advances_bind ?_ fun _ => ?_
    | split
    | infer_instance

instance : Advances (inputList g) := by
  unfold inputList
  refine advances_bind (advances_repeatStep fun acc => ?_) fun states => inferInstance
  dsimp only
  repeat' first
    | with_reducible refine advances_ite ?_ ?_
    | with_reducible refine advances_bind ?_ fun _ => ?_
    | split
    | infer_instance

instance (allowSafe : Bool) : Advances (markedSignature g allowSafe) := by
  unfold markedSignature
  infer_instance

instance : Advances (signature g) := by
  unfold signature
  infer_instance

instance (allowSafe : Bool) : Advances (signatureAhead allowSafe) := by
  unfold signatureAhead
  infer_instance

instance : Advances (body g) := by
  unfold body
  infer_instance

instance (attributes : List Attribute) : Advances (methodDecl g attributes) := by
  unfold methodDecl
  infer_instance

instance : Advances (constValue g) := by
  unfold constValue
  infer_instance

instance (front : List Node) : Advances (constDecl g front) := by
  unfold constDecl
  infer_instance

instance (start : List Token) (front : List Node) : Advances (valuedConst g start front) := by
  unfold valuedConst
  infer_instance

instance (k : Kind) (place : ClausePlace) (front : List Node) :
    Advances (typeDecl g k place front) := by
  unfold typeDecl
  infer_instance

instance (start : List Token) (place : ClausePlace) (front : List Node) :
    Advances (valuedType g start place front) := by
  unfold valuedType
  infer_instance

instance (attributes : List Node) : Advances (macroItem attributes) := by
  unfold macroItem
  infer_instance

instance (attributes : List Node) : Advances (memberMacro attributes) := by
  unfold memberMacro
  infer_instance

instance : Advances (traitItem g) := by
  unfold traitItem
  infer_instance

instance : Advances (supertraits g) := by
  unfold supertraits
  infer_instance

instance (attributes : List Attribute) (v : Visibility) (isUnsafe isAuto : Bool) (i : Ident)
    (generics : Option Node) :
    Advances (traitRest g attributes v isUnsafe isAuto i generics) := by
  unfold traitRest
  infer_instance

instance (attributes : List Attribute) (v : Visibility) :
    Advances (traitAfterVisibility g attributes v) := by
  unfold traitAfterVisibility
  infer_instance

instance : Advances (traitDecl g) := by
  unfold traitDecl
  infer_instance

instance (attributes : List Attribute) (v : Visibility) :
    Advances (traitOrAlias g attributes v) := by
  unfold traitOrAlias
  infer_instance

instance (fromRoot : Bool) (fuel : Nat) : Advances (useTreeUpTo fuel fromRoot) := by
  induction fuel generalizing fromRoot with
  | zero =>
    unfold useTreeUpTo
    infer_instance
  | succ fuel ih =>
    unfold useTreeUpTo
    infer_instance

instance (start : List Token) (front : List Node) : Advances (useItem start front) := by
  unfold useItem
  infer_instance

/-- Fields, by way of the bound on their nesting. -/
class FieldsAdvance (fuel : Nat) : Prop where
  field : Advances (namedFieldUpTo g fuel)
  fields : Advances (namedFieldsUpTo g fuel)

attribute [instance] FieldsAdvance.field FieldsAdvance.fields

instance (fuel : Nat) : FieldsAdvance g fuel := by
  induction fuel with
  | zero =>
    exact
      { field := by unfold namedFieldUpTo; infer_instance
        fields := by unfold namedFieldsUpTo; infer_instance }
  | succ fuel ih =>
    exact
      { field := by unfold namedFieldUpTo; infer_instance
        fields := by unfold namedFieldsUpTo; infer_instance }

instance : Advances (namedFields g) := by
  unfold namedFields
  infer_instance

instance : Advances (bareField g) := by
  unfold bareField
  infer_instance

instance : Advances (tupleFields g) := by
  unfold tupleFields
  infer_instance

instance (front : List Node) : Advances (structItem g front) := by
  unfold structItem
  infer_instance

instance : Advances (variant g) := by
  unfold variant
  infer_instance

instance (front : List Node) : Advances (enumItem g front) := by
  unfold enumItem
  infer_instance

instance (front : List Node) : Advances (unionItem g front) := by
  unfold unionItem
  infer_instance

instance : Advances (implMember g) := by
  unfold implMember
  infer_instance

instance (start : List Token) (attributes : List Attribute) (v : Visibility) :
    Advances (implItem g start attributes v) := by
  unfold implItem
  infer_instance

instance (start : List Token) (front : List Node) : Advances (staticItem g start front) := by
  unfold staticItem
  infer_instance

instance (front : List Node) : Advances (externCrate front) := by
  unfold externCrate
  infer_instance

instance (start : List Token) (front : List Node) : Advances (foreignStatic g start front) := by
  unfold foreignStatic
  infer_instance

instance : Advances (foreignItem g) := by
  unfold foreignItem
  infer_instance

instance (attributes : List Attribute) (v : Visibility) :
    Advances (externBlock g attributes v) := by
  unfold externBlock
  infer_instance

instance (start : List Token) : Advances (macroDefinition start) := by
  unfold macroDefinition
  infer_instance

instance (attributes : List Attribute) (v : Visibility) : Advances (moduleItem g attributes v) := by
  unfold moduleItem
  infer_instance

instance (attributes : List Attribute) (v : Visibility) : Advances (externItem g attributes v) := by
  unfold externItem
  infer_instance

instance (start : List Token) (attributes : List Attribute) (v : Visibility) :
    Advances (unsafeItem g start attributes v) := by
  unfold unsafeItem
  infer_instance

instance (start : List Token) (attributes : List Attribute) (v : Visibility) :
    Advances (itemAfterVisibility g start attributes v) := by
  unfold itemAfterVisibility
  dsimp only
  repeat' first
    | with_reducible refine advances_ite ?_ ?_
    | with_reducible refine advances_bind ?_ fun _ => ?_
    | split
    | infer_instance

instance : Advances (itemOf g) := by
  unfold itemOf
  infer_instance

/-! ## The whole grammar -/

theorem advances_grammar (n : Nat) : (grammar n).Advances := by
  induction n with
  | zero =>
    exact
      { type := fun _ => by rw [grammar]; infer_instance
        operand := fun _ => by rw [grammar]; infer_instance
        operations := fun _ _ _ => by rw [grammar]; infer_instance
        pattern := by rw [grammar]; infer_instance
        statements := by rw [grammar]; infer_instance
        ownStatements := by rw [grammar]; infer_instance
        item := by rw [grammar]; infer_instance }
  | succ n ih =>
    exact
      { type := fun allowPlus => inferInstanceAs (Advances (typeWith (grammar n) allowPlus))
        operand := fun braces => inferInstanceAs (Advances (operandOf (grammar n) braces))
        operations := fun braces strength first =>
          inferInstanceAs (Advances (operationsOf (grammar n) braces strength first))
        pattern := inferInstanceAs (Advances (singlePattern (grammar n)))
        statements := inferInstanceAs (Advances (statementsOf (grammar n)))
        ownStatements := inferInstanceAs (Advances (ownStatementsOf (grammar n)))
        item := inferInstanceAs (Advances (itemOf (grammar n))) }

end RestLoom.Source
