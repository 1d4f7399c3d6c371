import RestLoom.Emit.Builder
import RestLoom.Emit.Client
import RestLoom.FileTree.Basic
import RestLoom.Service.Find

/-!
# Emit/Units — the files generated from a source file

    file.rs ──generate──▸ a_generated_client.rs, a_generated_client_registration.rs, …, mod.rs

Each service that can be generated gives two units; one more declares them all as modules.  A
service that cannot is reported and leaves the others as they are.
-/

namespace RestLoom.Emit

open RestLoom.Token (Ident)
open RestLoom.Source
open RestLoom.FileTree (FileError)
open RestLoom.Service (ExtractError Found)

/-- Why code could not be generated. -/
inductive CodeError where
  /-- The generated code is not what it should be. -/
  | invalid (e : ReadError)
  /-- Two services have units of one name. -/
  | stemTaken (service stem : String)

/-- The wording of an error in generated code. -/
def CodeError.message : CodeError → String
  | invalid e => "Generated code is invalid: " ++ e.message
  | stemTaken service stem =>
    "service '" ++ service ++ "' maps to unit '" ++ stem ++
      "', which another service already uses"

/-- Why generation fails, for one service or as a whole. -/
inductive GenerateError where
  | read (path : String) (e : FileError)
  | parse (e : ReadError)
  | extraction (service : String) (e : ExtractError)
  | code (e : CodeError)
  | write (path : String) (e : FileError)
  | outputDirNotFound (path : String)
  | cancelled

/-- The wording of an error. -/
def GenerateError.message : GenerateError → String
  | read path e => "Failed to read input file '" ++ path ++ "': " ++ e.message
  | parse e => "Failed to parse input: " ++ e.message
  | extraction service e =>
    "Service '" ++ service ++ "' cannot be generated: " ++ e.message
  | code e => "Code generation failed: " ++ e.message
  | write path e => "Failed to write output file '" ++ path ++ "': " ++ e.message
  | outputDirNotFound path => "Output directory does not exist: " ++ path
  | cancelled => "Generation cancelled"

/-- What stops generation: an error, a name that would have to be made of text that is none, or a
phrase that has no layout. -/
inductive Halt where
  | error (e : GenerateError)
  | notAName (text : String)
  | noLayout

/-- What stops generation where items are not laid out. -/
def Halt.ofFault : BuildFault → Halt
  | .invalid e => .error (.code (.invalid e))
  | .noLayout => .noLayout

/-- A generated file. -/
structure SourceUnit where
  fileName : String
  contents : String
  deriving DecidableEq

/-- The outcome of generation: the services and their units, and the failures. -/
structure Report where
  services : List String
  units : List SourceUnit
  failures : List GenerateError

/-- Whether no service failed. -/
def Report.isSuccess (r : Report) : Bool := r.failures.isEmpty

/-- The notice at the top of every unit. -/
def notice : String :=
  "This code was automatically generated by refit-gen. Do not edit manually."

/-- Laid-out code under the notice. -/
def formatCode (f : File) : Option String := do
  return "// " ++ notice ++ "\n\n" ++ (← Layout.ofFile f)

/-! ## Units of a service -/

/-- Items of a unit. -/
def itemsPiece (ts : List Token) : Piece := .items (.ok ts)

/-- A visibility that at least the whole package has. -/
def widened : Visibility → Visibility
  | .inherited => .within false (identPath (.plain "crate"))
  | v => v

/-- The text of pieces, if it reads as a file. -/
def checkedText (ps : List Piece) : Except Halt String := do
  let text ← (buildText ps).mapError .ofFault
  let _ ← (File.ofText text).mapError fun e => .ofFault (.invalid e)
  return text

/-- The pieces of a client unit. -/
def clientPieces (decl : TraitDecl) (s : Service) (client : Ident) (uses : List Node)
    (imports : List String) : List Piece :=
  let decl := { decl with visibility := widened decl.visibility }
  let service := { s with visibility := widened s.visibility }
  [.comment notice, .blank] ++
    imports.flatMap (fun i => [.line "#[allow(unused_imports)]", .line ("use " ++ i ++ "::*;")]) ++
    (if uses.isEmpty then [] else [itemsPiece (Node.tokensAll uses)]) ++
    (if imports.isEmpty && uses.isEmpty then [] else [.blank]) ++
    [itemsPiece (serviceTrait decl).toNode.tokens, .blank,
      itemsPiece (contractTokens service), .blank,
      itemsPiece (clientTokens service client)]

/-- The unit that holds a service's trait, contract and client. -/
def clientUnit (modules : List Ident) (decl : TraitDecl) (s : Service) (client : Ident)
    (uses : List Node) (imports : List String) : Except Halt SourceUnit := do
  let contents ← checkedText (clientPieces decl s client uses imports)
  return ⟨Service.unitStem modules s.name ++ ".rs", contents⟩

/-- The pieces of a registration unit. -/
def registrationPieces (stem : String) (s : Service) (client : Ident) : List Piece :=
  [.comment notice, .blank,
    .line ("use super::" ++ stem ++ "::\x7b" ++ client.text ++ ", " ++ s.name.text ++ "\x7d;"),
    .blank,
    itemsPiece (registrationTokens s client), .blank,
    .implementation client.text none
      [.line "/// Registers this client with an explicit registry.",
        .function "pub fn register" "registry: &::refit::ClientRegistry"
          (some "::core::result::Result<(), ::refit::RegistryError>")
          [.line ("registry.register::<dyn " ++ s.name.text ++
            ">(|transport| ::std::boxed::Box::new(" ++ client.text ++ "::new(transport)))")]]]

/-- The unit that registers a service's client. -/
def registrationUnit (modules : List Ident) (s : Service) (client : Ident) :
    Except Halt SourceUnit := do
  let stem := Service.unitStem modules s.name
  let contents ← checkedText (registrationPieces stem s client)
  return ⟨stem ++ "_registration.rs", contents⟩

/-! ## The unit of modules -/

/-- The declarations of a service's two modules. -/
def moduleTokens (stem : String) : List Token :=
  let name := Token.nameOf (.plain stem)
  Token.code "pub mod" ++ name ++ Token.code "; mod" ++
    Token.nameOf (.plain (stem ++ "_registration")) ++ Token.code "; pub use" ++ name ++
    Token.code "::*;"

/-- Whether a text is a name. -/
def isName (text : String) : Bool := Text.isName text.toList

/-- The unit that declares the modules of all services. -/
def moduleUnit (stems : List String) : Except Halt SourceUnit :=
  match stems.find? fun s => !isName s with
  | some stem => .error (.notAName stem)
  | none => do
    let f ← (File.ofTokens (stems.flatMap moduleTokens)).mapError fun e => .ofFault (.invalid e)
    match formatCode f with
    | some text => return ⟨"mod.rs", text⟩
    | none => throw .noLayout

/-! ## Whole files -/

/-- What generation works with: modules to import from, and the signal to stop. -/
structure Options where
  imports : List String
  signal : Signal

/-- The options by default. -/
def Options.default : Options := ⟨[], .never⟩

/-- The units of a service. -/
def serviceUnits (items : List Item) (o : Options) (f : Found) (s : Service) (client : Ident) :
    Except Halt (List SourceUnit) := do
  let uses := Service.importsInScope items f.modules
  let clientPart ← clientUnit f.modules f.decl s client uses o.imports
  let registration ← registrationUnit f.modules s client
  return [clientPart, registration]

/-- The outcome so far, and the stems of the units. -/
structure Progress where
  report : Report
  stems : List String

/-- Notes a failure. -/
def Progress.fail (p : Progress) (e : GenerateError) : Progress :=
  { p with report := { p.report with failures := p.report.failures ++ [e] } }

/-- Adds the units of one service, or its failure. -/
def addService (items : List Item) (o : Options) (p : Progress) (f : Found) :
    Except Halt Progress :=
  let name := f.decl.name.text
  match f.result with
  | .error e => .ok (p.fail (.extraction name e))
  | .ok s =>
    match Service.clientName? s.name with
    | none => .error (.notAName (Service.clientText s.name))
    | some client =>
      let stem := Service.unitStem f.modules s.name
      if p.stems.contains stem then .ok (p.fail (.code (.stemTaken name stem)))
      else
        match serviceUnits items o f s client with
        | .error (.error e) => .ok (p.fail e)
        | .error h => .error h
        | .ok units =>
          .ok
            { report := { p.report with
                services := p.report.services ++ [name]
                units := p.report.units ++ units }
              stems := p.stems ++ [stem] }

/-- Adds services in order, looking at the signal before each one. -/
def addServices (items : List Item) (o : Options) (looks : Nat) (p : Progress) :
    List Found → Except Halt Progress
  | [] => .ok p
  | f :: fs =>
    if o.signal.isUp looks then .error (.error .cancelled)
    else do addServices items o (looks + 1) (← addService items o p f) fs

/-- The units generated from a file. -/
def generateFile (o : Options) (file : File) : Except Halt Report :=
  match Service.findServices o.signal file with
  | none => .error (.error .cancelled)
  | some (found, looks) => do
    let p ← addServices file.items o looks ⟨⟨[], [], []⟩, []⟩ found
    if p.stems.isEmpty then return p.report
    else
      let modules ← moduleUnit p.stems
      return { p.report with units := p.report.units ++ [modules] }

/-- **Generation**: the units of a source text. -/
def generate (o : Options) (text : String) : Except Halt Report :=
  match File.ofText text with
  | .error e => .error (.error (.parse e))
  | .ok file => generateFile o file

end RestLoom.Emit
