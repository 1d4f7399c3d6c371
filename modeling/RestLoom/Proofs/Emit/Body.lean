import RestLoom.Emit.Program
import RestLoom.Proofs.Code.Syntax
import RestLoom.Proofs.Token.Literal

/-!
# Proofs/Emit/Body — the statements that a program is written as

    program ──tokens──▸ code ──readBlock──▸ statements

Each step of a program is one piece of its code, which ends in a semicolon or in a block
(`readBlock_stepTokens`), so a body is read piece by piece: its code is read as the statements of the
program (`readBlock_tokens`), whatever names and keys stand in it.
-/

namespace RestLoom.Emit

open RestLoom.Token
open RestLoom.Code
open RestLoom.Service (Verb)

/-! ## The statements of a program -/

namespace Program

/-- The name that the request has in a body. -/
def requestName : Ident := .plain "__refit_request"

/-- The name that the path has in a body. -/
def pathName : Ident := .plain "__refit_path"

/-- The name that the value of an option has in a body. -/
def valueName : Ident := .plain "__refit_value"

/-- The name that the response has in a body. -/
def responseName : Ident := .plain "__refit_response"

/-- The encoded value of a parameter. -/
def encodedExpr (i : Ident) : Expr := .call ["refit", "encode_path_value"] [.borrow (.name i)]

/-- The expression of a path. -/
def pathExpr : PathSource → Expr
  | .constant text => .call ["std", "string", "String", "from"] [.text text]
  | .formatted format arguments =>
    .expand ["std", "format"] (.text format :: arguments.map encodedExpr)

/-- A call of a method of the request. -/
def requestCall (method : String) (arguments : List Expr) : Expr :=
  .method (.name requestName) method arguments

/-- The statement of a step. -/
def stepStatement : Step → Statement
  | .query key i => .simple (.run (requestCall "query" [.text key, .borrow (.name i)]))
  | .queryIfPresent key i =>
    .ifPresent valueName (.borrow (.name i))
      [.run (requestCall "query" [.text key, .name valueName])]
  | .json i => .simple (.run (.propagate (requestCall "json" [.borrow (.name i)])))
  | .cancelOn i => .simple (.run (requestCall "cancel_on" [.name i]))

/-- The transport of the client whose method it is. -/
def transportExpr : Expr := .field (.name (.plain "self")) "transport"

/-- The expression that sends the request. -/
def dispatchExpr (isAsync : Bool) : Expr :=
  .propagate <|
    if isAsync then .await (.method transportExpr "send" [.name requestName])
    else .method transportExpr "send_blocking" [.name requestName]

/-- A success. -/
def okExpr (e : Expr) : Expr := .call ["std", "result", "Result", "Ok"] [e]

/-- The statement that makes the path. -/
def pathStatement (p : Program) : Statement := .simple (.bind false pathName (pathExpr p.path))

/-- The statement that makes the request. -/
def requestStatement (p : Program) : Statement :=
  .simple (.bind true requestName (.call ["refit", "RestRequest", "new"]
    [.path ["refit", "RestMethod", p.verb.variant], .name pathName]))

/-- The statement that sends the request, and the value of the body. -/
def finishStatement (p : Program) : Statement × Expr :=
  if p.answers then
    (.simple (.bind false responseName (dispatchExpr p.isAsync)),
      okExpr (.propagate (.method (.name responseName) "json" [])))
  else (.simple (.run (dispatchExpr p.isAsync)), okExpr .unit)

/-- **The statements of a program.** -/
def block (p : Program) : Block :=
  { statements := p.pathStatement :: p.requestStatement :: p.steps.map stepStatement ++
      [p.finishStatement.1]
    value := p.finishStatement.2 }

end Program

/-! ## The tokens of fixed pieces of code -/

/-- What assigns to the last of some names. -/
def binding (words : List String) : List Token := words.map word ++ [.punct '=' .alone]

/-- The name of a member of a value, behind the value. -/
def member (name : String) : List Token := [.punct '.' .alone, word name]

theorem code_comma : code "," = [.punct ',' .alone] := by decide +kernel

theorem code_reference : code "&" = [.punct '&' .alone] := by decide +kernel

theorem code_commaReference : code ", &" = [.punct ',' .alone, .punct '&' .alone] := by
  decide +kernel

theorem code_semicolon : code ";" = [.punct ';' .alone] := by decide +kernel

theorem code_propagate : code "?;" = [.punct '?' .alone, .punct ';' .alone] := by decide +kernel

theorem code_fromText :
    code "::std::string::String::from" = rooted ["std", "string", "String", "from"] := by
  decide +kernel

theorem code_format : code "::std::format!" = rooted ["std", "format"] ++ [.punct '!' .alone] := by
  decide +kernel

theorem code_encode :
    code "::refit::encode_path_value" = rooted ["refit", "encode_path_value"] := by
  decide +kernel

theorem code_query : code "__refit_request.query" = word "__refit_request" :: member "query" := by
  decide +kernel

theorem code_json : code "__refit_request.json" = word "__refit_request" :: member "json" := by
  decide +kernel

theorem code_cancelOn :
    code "__refit_request.cancel_on" = word "__refit_request" :: member "cancel_on" := by
  decide +kernel

theorem code_valueReference : code "if let ::std::option::Option::Some(__refit_value) = &" =
    code "if let ::std::option::Option::Some" ++
      [.group .paren [word "__refit_value"], .punct '=' .alone, .punct '&' .alone] := by
  decide +kernel

theorem code_commaValue : code ", __refit_value" = [.punct ',' .alone, word "__refit_value"] := by
  decide +kernel

theorem code_path : code "let __refit_path =" = binding ["let", "__refit_path"] := by
  decide +kernel

theorem code_request : code "let mut __refit_request = ::refit::RestRequest::new" =
    binding ["let", "mut", "__refit_request"] ++ rooted ["refit", "RestRequest", "new"] := by
  decide +kernel

theorem code_verb : code "::refit::RestMethod::" =
    rooted ["refit", "RestMethod"] ++ [.punct ':' .joint, .punct ':' .alone] := by
  decide +kernel

theorem code_commaPath : code ", __refit_path" = [.punct ',' .alone, word "__refit_path"] := by
  decide +kernel

theorem code_send : code "self.transport.send(__refit_request).await?" =
    word "self" :: (member "transport" ++ member "send" ++
      .group .paren [word "__refit_request"] :: (member "await" ++ [.punct '?' .alone])) := by
  decide +kernel

theorem code_sendBlocking : code "self.transport.send_blocking(__refit_request)?" =
    word "self" :: (member "transport" ++ member "send_blocking" ++
      [.group .paren [word "__refit_request"], .punct '?' .alone]) := by
  decide +kernel

theorem code_response : code "let __refit_response =" = binding ["let", "__refit_response"] := by
  decide +kernel

theorem code_valueOk : code "; ::std::result::Result::Ok(__refit_response.json()?)" =
    .punct ';' .alone :: (rooted ["std", "result", "Result", "Ok"] ++
      [.group .paren (word "__refit_response" :: (member "json" ++
        [.group .paren [], .punct '?' .alone]))]) := by
  decide +kernel

theorem code_unitOk : code "; ::std::result::Result::Ok(())" =
    .punct ';' .alone :: (rooted ["std", "result", "Result", "Ok"] ++
      [.group .paren [.group .paren []]]) := by
  decide +kernel

/-! ## Reading expressions -/

namespace Program

-- fixed pieces of code are opened by their equations only
attribute [local irreducible] code

variable {done : List Expr} {ts : List Token}

theorem readList_encodedTokens (done : List Expr) (i : Ident) (ts : List Token) :
    readList done 0 .start (encodedTokens i ++ ts) =
      readList done 0 (.value (encodedExpr i)) ts := by
  rw [encodedTokens, code_encode, code_reference, List.append_assoc, readList_rooted]
  rfl

/-- **The values of parameters** between commas are read one after the other. -/
theorem readList_commaTokens (is : List Ident) :
    readList done 0 .start (commaTokens (is.map encodedTokens)) =
      some (done ++ is.map encodedExpr) := by
  induction is generalizing done with
  | nil => exact congrArg some (List.append_nil done).symm
  | cons i is ih =>
    cases is with
    | nil =>
      have hlast := readList_encodedTokens done i []
      rw [List.append_nil] at hlast
      exact hlast
    | cons j is =>
      have hcomma (rest : List Token) :
          readList done 0 (.value (encodedExpr i)) (.punct ',' .alone :: rest) =
            readList (done ++ [encodedExpr i]) 0 .start rest := rfl
      change readList done 0 .start (encodedTokens i ++ code "," ++
        commaTokens ((j :: is).map encodedTokens)) = _
      rw [code_comma, List.append_assoc, readList_encodedTokens, List.singleton_append, hcomma, ih,
        List.append_assoc]
      rfl

/-- **The code of a path** is read as its expression. -/
theorem readExpr_pathTokens (source : PathSource) :
    readExpr (pathTokens source) = some (pathExpr source) := by
  cases source with
  | constant text =>
    rw [pathTokens, code_fromText]
    exact readExpr_call _ _ (readList_quote text)
  | formatted format arguments =>
    have hcomma : readList [] 0 (.value (.text format))
        (.punct ',' .alone :: commaTokens (arguments.map encodedTokens)) =
          readList [.text format] 0 .start (commaTokens (arguments.map encodedTokens)) := rfl
    rw [pathTokens, code_format, code_comma, List.append_assoc]
    refine readExpr_expand _ _ ((readList_quote format).trans (hcomma.trans ?_))
    exact readList_commaTokens arguments

/-- **A call of a method of the request** is read with its arguments. -/
theorem readList_requestCall (method : String) (hmethod : method ≠ "await") {inner : List Token}
    {arguments : List Expr} (hinner : readList [] 0 .start inner = some arguments)
    (ts : List Token) :
    readList [] 0 .start (word "__refit_request" :: (member method ++ .group .paren inner :: ts)) =
      readList [] 0 (.value (requestCall method arguments)) ts := by
  have hstep : (Cursor.dot (.name requestName)).step (word method) =
      some (.member (.name requestName) method) :=
    congrArg some (if_neg fun heq => hmethod (Ident.mk.inj heq).2)
  change (Cursor.dot (.name requestName)).step (word method) >>=
    (readList [] 0 · (.group .paren inner :: ts)) = _
  rw [hstep]
  exact readList_parens hinner rfl

/-! ## Reading steps -/

/-- The code of a call of a method of the request. -/
def requestTokens (method : String) (inner : List Token) : List Token :=
  word "__refit_request" :: (member method ++ [.group .paren inner])

theorem readSimple_request {ts : List Token} {e : Expr}
    (h : readExpr (word "__refit_request" :: ts) = some e) :
    readSimple (withoutAttributes (word "__refit_request" :: ts)) = some (.run e) :=
  (readSimple_run (word_ne (by decide))).trans (congrArg (Option.map Simple.run) h)

theorem readStatement_request {ts : List Token} {e : Expr}
    (h : readExpr (word "__refit_request" :: ts) = some e) :
    readStatement (withoutAttributes (word "__refit_request" :: ts)) = some (.simple (.run e)) :=
  (readStatement_simple (word_ne (by decide))).trans
    (congrArg (Option.map Statement.simple) (readSimple_request h))

theorem readExpr_request (method : String) (hmethod : method ≠ "await") {inner : List Token}
    {arguments : List Expr} (hinner : readList [] 0 .start inner = some arguments) :
    readExpr (requestTokens method inner) = some (requestCall method arguments) :=
  readExpr_of_readList rfl (readList_requestCall method hmethod hinner [])

/-- A pair of the query is read with its key. -/
theorem readExpr_query (key : String) {inner : List Token} {e : Expr}
    (h : readList [.text key] 0 .start inner = some [.text key, e]) :
    readExpr (requestTokens "query" (.literal (quote key) :: .punct ',' .alone :: inner)) =
      some (requestCall "query" [.text key, e]) :=
  readExpr_request "query" (by decide) ((readList_quote key).trans h)

theorem readExpr_json (i : Ident) :
    readExpr (requestTokens "json" [.punct '&' .alone, .ident i] ++ [.punct '?' .alone]) =
      some (.propagate (requestCall "json" [.borrow (.name i)])) :=
  have hinner : readList [] 0 .start [.punct '&' .alone, .ident i] = some [.borrow (.name i)] := rfl
  readExpr_of_readList rfl (readList_requestCall "json" (by decide) hinner [.punct '?' .alone])

theorem stepTokens_query (key : String) (i : Ident) : stepTokens (.query key i) =
    requestTokens "query" [.literal (quote key), .punct ',' .alone, .punct '&' .alone, .ident i] ++
      [.punct ';' .alone] := by
  rw [stepTokens, code_query, code_semicolon, code_commaReference]
  rfl

theorem stepTokens_json (i : Ident) : stepTokens (.json i) =
    requestTokens "json" [.punct '&' .alone, .ident i] ++ [.punct '?' .alone] ++
      [.punct ';' .alone] := by
  rw [stepTokens, code_json, code_reference, code_propagate]
  rfl

theorem stepTokens_cancelOn (i : Ident) : stepTokens (.cancelOn i) =
    requestTokens "cancel_on" [.ident i] ++ [.punct ';' .alone] := by
  rw [stepTokens, code_cancelOn, code_semicolon]
  rfl

/-- The code of a block with one call that adds a pair to the query. -/
def queryBlock (key : String) : List Token :=
  requestTokens "query" [.literal (quote key), .punct ',' .alone, word "__refit_value"] ++
    [.punct ';' .alone]

/-- The code of a condition that an option has a value. -/
def presenceTokens (i : Ident) : List Token :=
  code "if let ::std::option::Option::Some" ++
    [.group .paren [word "__refit_value"], .punct '=' .alone, .punct '&' .alone, .ident i]

theorem stepTokens_queryIfPresent (key : String) (i : Ident) :
    stepTokens (.queryIfPresent key i) =
      presenceTokens i ++ [.group .brace (queryBlock key)] := by
  rw [stepTokens, presenceTokens, code_valueReference, code_query, code_commaValue,
    code_semicolon]
  simp only [List.append_assoc]
  rfl

theorem readSimples_queryBlock (key : String) : readSimples (queryBlock key) =
    some [.run (requestCall "query" [.text key, .name valueName])] := by
  have hpieces (inner : List Token) :
      pieces [] (requestTokens "query" inner ++ [.punct ';' .alone]) =
        ([requestTokens "query" inner], []) := rfl
  have hinner : readList [.text key] 0 .start [word "__refit_value"] =
      some [.text key, .name valueName] := rfl
  rw [readSimples, queryBlock, hpieces]
  dsimp only
  rw [List.mapM_cons]
  refine (congrArg (· >>= _) (readSimple_request (readExpr_query key hinner))).trans ?_
  rfl

theorem readStatement_queryIfPresent (key : String) (i : Ident) :
    readStatement (withoutAttributes (presenceTokens i ++ [.group .brace (queryBlock key)])) =
      some (stepStatement (.queryIfPresent key i)) := by
  have hplain (ts : List Token) :
      withoutAttributes (code "if let ::std::option::Option::Some" ++ ts) =
        code "if let ::std::option::Option::Some" ++ ts := by
    rw [code_ifPresent]
    rfl
  rw [presenceTokens, List.append_assoc, hplain, readStatement_ifPresent]
  change (do
    return Statement.ifPresent valueName (.borrow (.name i)) (← readSimples (queryBlock key))) = _
  rw [readSimples_queryBlock]
  rfl

/-- **The code of a step** is read as its statement. -/
theorem readBlock_stepTokens (s : Step) (rest : List Token) :
    readBlock (stepTokens s ++ rest) = (readBlock rest).map (Block.cons (stepStatement s)) := by
  cases s with
  | query key i =>
    have hinner : readList [.text key] 0 .start [.punct '&' .alone, .ident i] =
        some [.text key, .borrow (.name i)] := rfl
    rw [stepTokens_query, List.append_assoc]
    exact readBlock_semicolon rfl (readStatement_request (readExpr_query key hinner)) rest
  | queryIfPresent key i =>
    have hpiece : (presenceTokens i).any endsPiece = false := by
      rw [presenceTokens, code_ifPresent]
      rfl
    rw [stepTokens_queryIfPresent, List.append_assoc]
    exact readBlock_brace hpiece (readStatement_queryIfPresent key i) rest
  | json i =>
    rw [stepTokens_json, List.append_assoc]
    exact readBlock_semicolon rfl (readStatement_request (readExpr_json i)) rest
  | cancelOn i =>
    have hinner : readList [] 0 .start [.ident i] = some [.name i] := rfl
    rw [stepTokens_cancelOn, List.append_assoc]
    exact readBlock_semicolon rfl
      (readStatement_request (readExpr_request "cancel_on" (by decide) hinner)) rest

/-! ## Reading bodies -/

theorem readBlock_flatMap (steps : List Step) (rest : List Token) :
    readBlock (steps.flatMap stepTokens ++ rest) =
      (readBlock rest).map fun b =>
        { b with statements := steps.map stepStatement ++ b.statements } := by
  induction steps with
  | nil => exact Option.map_id_apply.symm
  | cons s steps ih =>
    rw [List.flatMap_cons, List.append_assoc, readBlock_stepTokens, ih, Option.map_map]
    rfl

/-- What is assigned to a name is read as an expression. -/
theorem readStatement_binding {x : String} (hx : "mut" ≠ x) (ts : List Token) :
    readStatement (withoutAttributes (binding ["let", x] ++ ts)) =
      (readExpr ts).map fun e => .simple (.bind false (.plain x) e) :=
  (readStatement_let (word_ne hx)).trans (Option.map_map ..)

theorem readStatement_bindingMut (x : String) (ts : List Token) :
    readStatement (withoutAttributes (binding ["let", "mut", x] ++ ts)) =
      (readExpr ts).map fun e => .simple (.bind true (.plain x) e) :=
  (readStatement_letMut _).trans (Option.map_map ..)

theorem readExpr_dispatchTokens (isAsync : Bool) :
    readExpr (dispatchTokens isAsync) = some (dispatchExpr isAsync) := by
  cases isAsync with
  | true =>
    rw [dispatchTokens, if_pos rfl, code_send]
    rfl
  | false =>
    rw [dispatchTokens, if_neg Bool.false_ne_true, code_sendBlocking]
    rfl

theorem any_endsPiece_dispatchTokens (isAsync : Bool) :
    (dispatchTokens isAsync).any endsPiece = false := by
  cases isAsync with
  | true =>
    rw [dispatchTokens, if_pos rfl, code_send]
    rfl
  | false =>
    rw [dispatchTokens, if_neg Bool.false_ne_true, code_sendBlocking]
    rfl

/-- **The code that sends the request** is read as the last statement and the value. -/
theorem readBlock_finishTokens (p : Program) : readBlock (finishTokens p) =
    some ⟨[p.finishStatement.1], p.finishStatement.2⟩ := by
  have hdispatch := readExpr_dispatchTokens p.isAsync
  rw [finishTokens, finishStatement]
  split
  next =>
    have hpiece : (binding ["let", "__refit_response"] ++ dispatchTokens p.isAsync).any endsPiece =
        false := by
      rw [List.any_append, any_endsPiece_dispatchTokens]
      rfl
    have hread :=
      readStatement_binding (x := "__refit_response") (by decide) (dispatchTokens p.isAsync)
    rw [code_response, code_valueOk]
    rw [hdispatch] at hread
    refine (readBlock_semicolon hpiece hread _).trans ?_
    rw [readBlock_last rfl (readExpr_call _ _ rfl)]
    rfl
  next =>
    have hread : readStatement (withoutAttributes (dispatchTokens p.isAsync)) =
        some (.simple (.run (dispatchExpr p.isAsync))) := by
      obtain ⟨ts, hts⟩ : ∃ ts, dispatchTokens p.isAsync = word "self" :: ts := by
        rw [dispatchTokens, code_send, code_sendBlocking]
        split <;> exact ⟨_, rfl⟩
      rw [hts] at hdispatch ⊢
      refine (readStatement_simple (word_ne (by decide))).trans ?_
      rw [readSimple_run (word_ne (by decide)), hdispatch]
      rfl
    rw [code_unitOk]
    refine (readBlock_semicolon (any_endsPiece_dispatchTokens p.isAsync) hread _).trans ?_
    rw [readBlock_last rfl (readExpr_call _ _ rfl)]
    rfl

theorem any_endsPiece_pathTokens (source : PathSource) :
    (pathTokens source).any endsPiece = false := by
  cases source with
  | constant text =>
    rw [pathTokens, code_fromText]
    rfl
  | formatted format arguments =>
    rw [pathTokens, code_format]
    rfl

/-- The code that makes a request. -/
def newRequestTokens (v : Verb) : List Token :=
  rooted ["refit", "RestRequest", "new"] ++
    [.group .paren (rooted ["refit", "RestMethod", v.variant] ++
      [.punct ',' .alone, word "__refit_path"])]

theorem readExpr_newRequestTokens (v : Verb) : readExpr (newRequestTokens v) =
    some (.call ["refit", "RestRequest", "new"]
      [.path ["refit", "RestMethod", v.variant], .name pathName]) := by
  refine readExpr_call _ _ ?_
  rw [readList_rooted]
  rfl

/-- The code that binds the request, with its attribute. -/
def bindRequestTokens (v : Verb) : List Token :=
  .punct '#' .alone :: .group .bracket (code "allow(unused_mut)") ::
    (binding ["let", "mut", "__refit_request"] ++ newRequestTokens v)

theorem tokens_eq (p : Program) : p.tokens =
    binding ["let", "__refit_path"] ++ pathTokens p.path ++ .punct ';' .alone ::
      (bindRequestTokens p.verb ++ .punct ';' .alone ::
        (p.steps.flatMap stepTokens ++ finishTokens p)) := by
  rw [tokens, code_path, code_semicolon, attributeOf, code_sharp, code_request, code_verb,
    code_commaPath]
  simp only [List.append_assoc]
  rfl

/-- **The code of a program** is read as its statements. -/
theorem readBlock_tokens (p : Program) : readBlock p.tokens = some p.block := by
  have hpath : readStatement (withoutAttributes
      (binding ["let", "__refit_path"] ++ pathTokens p.path)) = some p.pathStatement := by
    rw [readStatement_binding (by decide), readExpr_pathTokens]
    rfl
  have hrequest : readStatement (withoutAttributes (bindRequestTokens p.verb)) =
      some p.requestStatement := by
    refine (readStatement_bindingMut "__refit_request" (newRequestTokens p.verb)).trans ?_
    rw [readExpr_newRequestTokens]
    rfl
  have hpiece : (binding ["let", "__refit_path"] ++ pathTokens p.path).any endsPiece = false := by
    rw [List.any_append, any_endsPiece_pathTokens]
    rfl
  rw [tokens_eq, readBlock_semicolon hpiece hpath, readBlock_semicolon rfl hrequest,
    readBlock_flatMap, readBlock_finishTokens]
  rfl

end Program

end RestLoom.Emit
