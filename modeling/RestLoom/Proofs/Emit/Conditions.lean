import RestLoom.Emit.Client
import RestLoom.Proofs.Service.Acceptance

/-!
# Proofs/Emit/Conditions — declarations and bodies under a configuration

    trait A { #[cfg(x)] fn a(&self) … ; fn b(&self) … ; }  ·  impl A for … { fn a … { } fn b … { } }

The trait of a service is written from its declaration, so that its methods keep their conditions;
the bodies of its endpoints are written from the service, which has none.  Where all conditions
hold, declarations and bodies have the same signatures in the same order; where the condition of an
endpoint does not hold, its body stays without its declaration (`bodies_match_declarations_iff`).
-/

namespace RestLoom.Emit

open RestLoom.Token
open RestLoom.Source
open RestLoom.Service (Endpoint verbMarkers isVerbMarker)

/-! ## Configurations -/

/-- The condition that an attribute puts on what it stands before. -/
def condition? (a : Attribute) : Option (List Token) :=
  match a.arguments with
  | .list _ ts => if a.isNamed "cfg" then some ts else none
  | _ => none

/-- A configuration: which conditions hold. -/
abbrev Configuration := List Token → Bool

/-- Whether a method is there under a configuration: all its conditions hold. -/
def Configuration.admits (holds : Configuration) (m : Method) : Bool :=
  (m.attributes.filterMap condition?).all holds

/-- The methods that are there under a configuration. -/
def Configuration.admitted (holds : Configuration) (ms : List Method) : List Method :=
  ms.filter holds.admits

/-- The signatures of methods, token by token. -/
def signatures (ms : List Method) : List (List Token) := ms.map (·.signature.toNode.tokens)

variable {holds : Configuration} {t : TraitDecl} {baseUrl : Option String} {s : Service}
  {client : Ident}

/-! ## Declarations -/

/-- A method without markers. -/
def stripMethod (m : Method) : Method where
  attributes := m.attributes.filter fun a => !isVerbMarker a
  signature := Service.stripSignature m.signature
  body := m.body

theorem items_requireBound (name : String) (t : TraitDecl) :
    (requireBound name t).items = t.items := by
  unfold requireBound
  split <;> rfl

/-- **The methods of the emitted trait** are those of its declaration, without markers. -/
theorem methods_serviceTrait (t : TraitDecl) :
    Service.methods (serviceTrait t) = (Service.methods t).map stripMethod := by
  rw [Service.methods, Service.methods, serviceTrait, items_requireBound, items_requireBound]
  refine Eq.trans List.filterMap_map (Eq.trans ?_ List.map_filterMap.symm)
  refine List.filterMap_congr fun i _ => ?_
  cases i <;> rfl

/-- Whether a method is marked with a verb. -/
def isEndpoint (m : Method) : Bool := !(verbMarkers m.attributes).isEmpty

/-- The methods of the emitted trait that the declaration marks with a verb. -/
def declaredMethods (t : TraitDecl) : List Method :=
  ((Service.methods t).filter isEndpoint).map stripMethod

/-- The methods of the emitted trait that the declaration does not mark. -/
def unmarkedMethods (t : TraitDecl) : List Method :=
  ((Service.methods t).filter fun m => !isEndpoint m).map stripMethod

/-- Under a configuration, too, the emitted trait has the marked methods and the others. -/
theorem perm_admitted_methods (holds : Configuration) (t : TraitDecl) :
    (holds.admitted (Service.methods (serviceTrait t))).Perm
      (holds.admitted (declaredMethods t) ++ holds.admitted (unmarkedMethods t)) := by
  rw [Configuration.admitted, Configuration.admitted, Configuration.admitted,
    ← List.filter_append, methods_serviceTrait, declaredMethods, unmarkedMethods,
    ← List.map_append]
  exact ((List.filter_append_perm isEndpoint _).symm.map _).filter _

/-! ## Bodies -/

/-- The method that is written for an endpoint. -/
def bodyMethod (e : Endpoint) : Method where
  attributes := []
  signature := e.signature
  body := some [.raw (Program.ofEndpoint e).tokens]

theorem tokens_bodyMethod (e : Endpoint) : (bodyMethod e).toNode.tokens = methodTokens e := by
  rw [methodTokens]
  simp [Method.toNode, functionNode, bodyMethod, Attribute.outerNodes, Attribute.innerNodes,
    Node.tokens, Node.tokensAll, braces]

/-- The methods that implement the trait of a service for its client. -/
def bodyMethods (s : Service) : List Method := s.endpoints.map bodyMethod

/-- **The code of a client** ends in the implementation of the trait. -/
theorem exists_clientTokens_eq (s : Service) (client : Ident) : ∃ front,
    clientTokens s client = front ++ code "impl" ++ nameOf s.name ++ code "for" ++ nameOf client ++
      braces (Node.tokensAll ((bodyMethods s).map Method.toNode)) := by
  have hbodies : Node.tokensAll ((bodyMethods s).map Method.toNode) =
      s.endpoints.flatMap methodTokens := by
    rw [Node.tokensAll_eq_flatMap, bodyMethods, List.map_map, List.flatMap_map]
    exact List.flatMap_congr fun e _ => tokens_bodyMethod e
  rw [hbodies]
  exact ⟨_, rfl⟩

/-- A body is there under every configuration. -/
theorem admitted_bodyMethods (holds : Configuration) (s : Service) :
    holds.admitted (bodyMethods s) = bodyMethods s := by
  refine List.filter_eq_self.mpr fun m hm => ?_
  obtain ⟨e, -, rfl⟩ := List.mem_map.mp hm
  rfl

/-! ## Endpoints -/

theorem signature_of_documented {m : Method} {e : Endpoint}
    (h : Service.documentedEndpoint? m = some e) :
    e.signature = (stripMethod m).signature := by
  simp only [Service.documentedEndpoint?, Option.bind_eq_bind, Option.bind_eq_some_iff] at h
  obtain ⟨_, -, _, -, _, -, h⟩ := h
  exact congrArg Endpoint.signature (Option.some.inj h).symm

/-- **Each endpoint has the signature of its declaration**, in the order of the trait, and the
unmarked methods are skipped. -/
theorem signatures_bodyMethods (hs : Service.extract t baseUrl = .ok s) :
    signatures (bodyMethods s) = signatures (declaredMethods t) ∧
      s.skipped = (unmarkedMethods t).map (·.signature.name) := by
  obtain ⟨hlawful, rfl⟩ := Service.extract_eq_ok.mp hs
  rw [Service.serviceOf_eq_documentedService hlawful]
  constructor
  · rw [signatures, signatures, bodyMethods, declaredMethods, Service.documentedService,
      List.map_map, List.map_map, List.map_filterMap]
    rw [← List.filterMap_eq_map, ← List.filterMap_eq_filter, List.filterMap_filterMap]
    refine List.filterMap_congr fun m hm => ?_
    rw [Option.guard]
    cases hmarkers : isEndpoint m with
    | false =>
      have hnil : verbMarkers m.attributes = [] := by simpa [isEndpoint] using hmarkers
      rw [Service.documentedEndpoint?_eq_none hnil]
      rfl
    | true =>
      have hne : verbMarkers m.attributes ≠ [] := by simpa [isEndpoint] using hmarkers
      obtain ⟨e, he⟩ := (hlawful.endpoints m hm hne).exists_documented
      rw [he, Option.map_some, if_pos rfl, Option.bind_some]
      exact congrArg (fun sig : Signature => some sig.toNode.tokens) (signature_of_documented he)
  · rw [unmarkedMethods, List.map_map, Service.documentedService]
    dsimp only
    refine congrArg₂ List.map rfl (List.filter_congr fun m _ => ?_)
    rw [isEndpoint, Bool.not_not]

/-- What is left of a list is all of it just when nothing is dropped. -/
theorem signatures_admitted_eq_iff {ms : List Method} :
    signatures (holds.admitted ms) = signatures ms ↔ ∀ m ∈ ms, holds.admits m = true := by
  constructor
  · intro h
    have hlength := congrArg List.length h
    rw [signatures, signatures, List.length_map, List.length_map] at hlength
    exact List.length_filter_eq_length_iff.mp hlength
  · intro h
    rw [Configuration.admitted, List.filter_eq_self.mpr h]

/-- **Declarations and bodies match** under a configuration just when it admits every declared
endpoint: no declaration lacks its body under any, but the body of an endpoint whose conditions do
not hold lacks its declaration.  The other methods of the trait are those that are skipped. -/
theorem bodies_match_declarations_iff (hname : t.name.raw = false)
    (hs : Service.extract t baseUrl = .ok s) :
    (∃ client front, Service.clientName? s.name = some client ∧
      clientTokens s client =
        front ++ code "impl" ++ nameOf s.name ++ code "for" ++ nameOf client ++
          braces (Node.tokensAll ((bodyMethods s).map Method.toNode))) ∧
    s.skipped = (unmarkedMethods t).map (·.signature.name) ∧
    ∀ holds : Configuration,
      (holds.admitted (Service.methods (serviceTrait t))).Perm
        (holds.admitted (declaredMethods t) ++ holds.admitted (unmarkedMethods t)) ∧
      (signatures (holds.admitted (declaredMethods t))).Sublist
        (signatures (holds.admitted (bodyMethods s))) ∧
      (signatures (holds.admitted (bodyMethods s)) =
          signatures (holds.admitted (declaredMethods t)) ↔
        ∀ m ∈ declaredMethods t, holds.admits m = true) := by
  obtain ⟨hsignatures, hskipped⟩ := signatures_bodyMethods hs
  have hclient : Service.clientName? s.name = some (.plain (Service.clientText s.name)) := by
    rw [Service.clientName?, (Service.extract_eq_ok.mp hs).2]
    exact if_neg (Bool.eq_false_iff.mp hname)
  obtain ⟨front, hfront⟩ := exists_clientTokens_eq s (.plain (Service.clientText s.name))
  refine ⟨⟨_, front, hclient, hfront⟩, hskipped, fun holds => ⟨perm_admitted_methods holds t, ?_, ?_⟩⟩
  · rw [admitted_bodyMethods, hsignatures]
    exact List.filter_sublist.map _
  · rw [admitted_bodyMethods, hsignatures, eq_comm]
    exact signatures_admitted_eq_iff

/-! ## A feature -/

/-- A path of one name, possibly with an argument between angle brackets. -/
def featurePath (name : String) (argument : List Node) : Node :=
  .phrase .path [.phrase .segment (.ident (.plain name) :: argument)]

/-- A trait whose endpoint is there only with a feature. -/
def featureTrait : TraitDecl where
  attributes := []
  visibility := .everyone
  isUnsafe := false
  isAuto := false
  name := .plain "Feature"
  generics := none
  supertraits := []
  trailingPlus := false
  whereClause := none
  items := [.method
    { attributes := [
        ⟨false, featurePath "cfg" [], .list .paren (code "feature = \x22x\x22")⟩,
        ⟨false, featurePath "get" [], .list .paren [.literal "\x22/a\x22"]⟩]
      signature :=
        { isConst := false
          isAsync := false
          isUnsafe := false
          abi := none
          name := .plain "a"
          generics := none
          inputs := [.receiver ⟨[], some none, false, none⟩]
          trailingComma := false
          variadic := none
          output := some (.phrase .pathType [featurePath "Result"
            [.phrase .genericArgs [.op "<", .phrase .pathType [featurePath "String" []], .op ">"]]])
          whereClause := none }
      body := none }]

/-- The service of the trait. -/
def featureService : Service := Service.documentedService featureTrait none

theorem extract_featureTrait : Service.extract featureTrait none = .ok featureService := rfl

/-- The configuration in which every condition holds. -/
def allHold : Configuration := fun _ => true

/-- The configuration in which none holds. -/
def noneHolds : Configuration := fun _ => false

/-- **The endpoint of the feature** has its declaration where the feature is, and only there. -/
theorem featureTrait_matches :
    signatures (allHold.admitted (bodyMethods featureService)) =
        signatures (allHold.admitted (declaredMethods featureTrait)) ∧
      signatures (noneHolds.admitted (bodyMethods featureService)) ≠
        signatures (noneHolds.admitted (declaredMethods featureTrait)) := by
  obtain ⟨-, -, hmatch⟩ := bodies_match_declarations_iff rfl extract_featureTrait
  constructor
  · exact (hmatch allHold).2.2.mpr fun m _ => List.all_eq_true.mpr fun _ _ => rfl
  · intro h
    have hfeature := (hmatch noneHolds).2.2.mp h _ List.mem_cons_self
    cases hfeature

/-- **Not every configuration is right**: without the feature, the body has no declaration. -/
theorem exists_body_without_declaration : ∃ t baseUrl s, t.name.raw = false ∧
    Service.extract t baseUrl = .ok s ∧ ∃ holds : Configuration,
      signatures (holds.admitted (bodyMethods s)) ≠
        signatures (holds.admitted (declaredMethods t)) := by
  refine ⟨featureTrait, none, _, rfl, extract_featureTrait, noneHolds, fun h => ?_⟩
  cases h

end RestLoom.Emit
