import RestLoom.Proofs.Client.Contract
import RestLoom.Proofs.Code.Run
import RestLoom.Proofs.Emit.Body

/-!
# Proofs/Emit/PathSource — the path of a client method is the filled template

    "/{a}/{b}"  ──pathTokens──▸  format!("/{}/{}", encode(&a), encode(&b))  ──eval──▸  filled

A client method gets its path from a constant, or from a format with one parameter for each place of
the template.  The parameters are found by name, and an accepted endpoint has one for each place
(`spellsPath_pathExpr`), so running the expression is filling the template (`SpellsPath.eval_eq`).
-/

namespace RestLoom.Emit

open RestLoom.Token (Ident)
open RestLoom.Path (Template readFormat)
open RestLoom.Service (Endpoint Parameter)
open RestLoom.Source (TraitDecl)
open RestLoom.Client (Request)
open RestLoom.Code

/-! ## Path expressions -/

/-- Whether an endpoint has a parameter of the path that fills a place: the first one of its
name. -/
def FillsPlace (e : Endpoint) (place : List Char) (i : Ident) : Prop :=
  ∃ p ∈ e.params, p.role = .path ∧ p.name.text.toList = place ∧ e.pathParam? place = some p ∧
    i = p.name

/-- **Whether an expression spells the path of an endpoint**: the text of its template, or the
format of the template with the encoded parameter of each place, in order. -/
inductive SpellsPath (e : Endpoint) : Expr → Prop where
  | constant (plain : e.path.placeholders = []) :
      SpellsPath e (.call ["std", "string", "String", "from"] [.text e.path.toString])
  | formatted {arguments : List Ident} (places : e.path.placeholders ≠ [])
      (fills : List.Forall₂ (FillsPlace e) e.path.placeholders arguments) :
      SpellsPath e (.expand ["std", "format"] (.text (String.ofList e.path.formatText) ::
        arguments.map fun i => .call ["refit", "encode_path_value"] [.borrow (.name i)]))

/-- Whether a name is bound to something that has a text. -/
def HasText (s : State) (i : Ident) (text : String) : Prop :=
  ∃ b, s.locals.lookup i.name = some b ∧ b.value.shown? = some text

variable {decl : TraitDecl} {baseUrl : Option String} {service : Service} {e : Endpoint}
variable {runtime : Runtime} {s : State}

/-- **Each place of an accepted endpoint** is filled by a parameter, found by its name. -/
theorem exists_fillsPlace (hs : Service.extract decl baseUrl = .ok service)
    (he : e ∈ service.endpoints) {place : List Char} (hplace : place ∈ e.path.placeholders) :
    ∃ p, e.pathParam? place = some p ∧ FillsPlace e place p.name := by
  obtain ⟨p, hp, hrole, hname⟩ := Service.exists_param_of_mem_placeholders hs he hplace
  have hfound : (e.pathParam? place).isSome := by
    rw [Endpoint.pathParam?, List.find?_isSome]
    exact ⟨p, Client.mem_withRole.mpr ⟨hp, hrole⟩, beq_iff_eq.mpr hname⟩
  obtain ⟨q, hq⟩ := Option.isSome_iff_exists.mp hfound
  obtain ⟨hmem, hqrole⟩ := Client.mem_withRole.mp (List.mem_of_find?_eq_some hq)
  have hqname := List.find?_some (p := fun q : Parameter => q.name.text.toList == place) hq
  exact ⟨q, hq, q, hmem, hqrole, beq_iff_eq.mp hqname, hq, rfl⟩

/-- **The path of an accepted endpoint is spelled** by its expression, without a name that is no
parameter's. -/
theorem spellsPath_pathExpr (hs : Service.extract decl baseUrl = .ok service)
    (he : e ∈ service.endpoints) :
    SpellsPath e (Program.pathExpr (Program.pathSource e)) := by
  unfold Program.pathSource
  split
  next hnil => exact .constant hnil
  next hne =>
    refine .formatted hne (List.forall₂_map_right_iff.mpr ?_)
    refine List.forall₂_same.mpr fun place hplace => ?_
    obtain ⟨p, hp, hfills⟩ := exists_fillsPlace hs he hplace
    rw [hp]
    exact hfills

/-! ## Running path expressions -/

/-- Parameters that fill places have the texts of the places. -/
theorem forall_hasText {places : List (List Char)} {arguments : List Ident}
    (h : List.Forall₂ (FillsPlace e) places arguments) {text : List Char → String}
    (htext : ∀ p ∈ e.params, p.role = .path → HasText s p.name (text p.name.text.toList)) :
    List.Forall₂ (fun place i => HasText s i (text place)) places arguments := by
  refine h.imp fun place i hfill => ?_
  obtain ⟨p, hp, hrole, rfl, -, rfl⟩ := hfill
  exact htext p hp hrole

/-- **The encoded parameters** of places stand for their encoded texts. -/
theorem evalAll_encodedExpr {places : List (List Char)} {arguments : List Ident}
    {text : List Char → String}
    (h : List.Forall₂ (fun place i => HasText s i (text place)) places arguments) :
    (evalAll runtime (arguments.map Program.encodedExpr)).on s =
      some (.ok (places.map fun place => .text (Request.encodePathValue (text place))), s) := by
  induction h with
  | nil => rfl
  | cons hfirst _ ih =>
    obtain ⟨b, hlookup, hshown⟩ := hfirst
    have hencode := congrArg (Option.map fun t => Value.text (Request.encodePathValue t)) hshown
    exact evalAll_cons (eval_call (evalAll_singleton (eval_borrow runtime hlookup)) hencode) ih

theorem mapM_shown?_text (texts : List String) :
    (texts.map Value.text).mapM Value.shown? = some texts := by
  induction texts with
  | nil => rfl
  | cons t texts ih =>
    rw [List.map_cons, List.mapM_cons, ih]
    rfl

theorem format?_of_readFormat {format : String} {texts : List String} {out : List Char}
    (h : readFormat format.toList (texts.map String.toList) = some out) :
    format? format (texts.map .text) = some (.text (String.ofList out)) := by
  rw [format?, mapM_shown?_text, Option.bind_eq_bind, Option.bind_some, h]
  rfl

/-- **Running an expression that spells a path** fills the template. -/
theorem SpellsPath.eval_eq {x : Expr} (h : SpellsPath e x) {text : List Char → String}
    (htext : ∀ p ∈ e.params, p.role = .path → HasText s p.name (text p.name.text.toList)) :
    (eval runtime x).on s = some (.ok (.text (String.ofList
      (e.path.fill fun place => some (Request.encodePathValue (text place)).toList))), s) := by
  cases h with
  | constant hnil =>
    rw [Template.fill_of_placeholders_eq_nil hnil]
    exact eval_call (evalAll_singleton (e := .text e.path.toString) rfl) rfl
  | formatted _ hfills =>
    have hread : readFormat (String.ofList e.path.formatText).toList
        ((e.path.placeholders.map fun place => Request.encodePathValue (text place)).map
          String.toList) =
          some (e.path.fill fun place => some (Request.encodePathValue (text place)).toList) := by
      rw [String.toList_ofList, List.map_map]
      exact Template.readFormat_formatText e.path _
    have hformat := format?_of_readFormat hread
    rw [List.map_map] at hformat
    exact eval_format (evalAll_encodedExpr (forall_hasText hfills htext)) hformat

/-- **The emitted path is plain substitution.**  The format of any template fits the texts of its
places and stands for the filled template, and a template without places is its own text.  For every
accepted endpoint the code of the path is read as that constant, or as that format with the encoded
parameter of each place, and running it fills the template, whatever the texts of the parameters
are. -/
theorem pathTokens_exact :
    (∀ (raw : String) (value : List Char → List Char),
      readFormat (Template.ofString raw).formatText
          ((Template.ofString raw).placeholders.map value) =
        some ((Template.ofString raw).fill fun place => some (value place))) ∧
    (∀ (raw : String) (value : List Char → List Char), (Template.ofString raw).placeholders = [] →
      (Template.ofString raw).fill (fun place => some (value place)) = raw.toList) ∧
    ∀ {decl : TraitDecl} {baseUrl : Option String} {service : Service} {e : Endpoint},
      Service.extract decl baseUrl = .ok service → e ∈ service.endpoints →
        ∃ x, readExpr (Program.pathTokens (Program.pathSource e)) = some x ∧ SpellsPath e x ∧
          ∀ (runtime : Runtime) (s : State) (text : List Char → String),
            (∀ p ∈ e.params, p.role = .path → HasText s p.name (text p.name.text.toList)) →
              (eval runtime x).on s = some (.ok (.text (String.ofList
                (e.path.fill fun place =>
                  some (Request.encodePathValue (text place)).toList))), s) := by
  refine ⟨fun raw => Template.readFormat_formatText _, fun raw value hnil => ?_, fun hs he => ?_⟩
  · exact Template.fill_of_placeholders_eq_nil hnil _
  · have hspells := spellsPath_pathExpr hs he
    exact ⟨_, Program.readExpr_pathTokens _, hspells, fun _ _ _ htext => hspells.eval_eq htext⟩

/-- A runtime that sends nothing. -/
def idleRuntime : Runtime := ⟨fun _ => ⟨[], .error .cancelled⟩, .any⟩

/-- The state in which a number is bound that looks like a place. -/
def bracedNumber : State := ⟨[("id", ⟨false, .text "\x7bid\x7d"⟩)], [], []⟩

/-- The path of a note, whose number stands at two places; a number with braces is not read as a
place again. -/
theorem exists_noteEndpoint_pathTokens :
    ∃ service e x, Service.extract Client.noteTrait none = .ok service ∧ e ∈ service.endpoints ∧
      e.path.placeholders = ["id".toList, "id".toList] ∧
      readExpr (Program.pathTokens (Program.pathSource e)) = some x ∧
      (eval idleRuntime x).on bracedNumber =
        some (.ok (.text "/notes/%7Bid%7D/%7Bid%7D"), bracedNumber) := by
  obtain ⟨service, e, hextract, hmem, hpath, hparams⟩ := Client.exists_noteEndpoint
  obtain ⟨x, hread, -, heval⟩ := pathTokens_exact.2.2 hextract hmem
  have htext : ∀ p ∈ e.params, p.role = .path → HasText bracedNumber p.name "\x7bid\x7d" := by
    intro p hp hrole
    have hpair := List.mem_map_of_mem (f := fun p : Parameter => (p.role, p.name)) hp
    rw [hparams, hrole] at hpair
    have hname : p.name = .plain "id" := by simpa using hpair
    rw [hname]
    exact ⟨_, rfl, rfl⟩
  have hfilled : (String.ofList ((Template.ofString "/notes/\x7bid\x7d/\x7bid\x7d").fill fun _ =>
      some (Request.encodePathValue "\x7bid\x7d").toList)) = "/notes/%7Bid%7D/%7Bid%7D" := by
    decide
  refine ⟨service, e, x, hextract, hmem, ?_, hread,
    (heval idleRuntime bracedNumber (fun _ => "\x7bid\x7d") htext).trans ?_⟩
  · rw [hpath]
    decide
  · rw [hpath, hfilled]

end RestLoom.Emit
