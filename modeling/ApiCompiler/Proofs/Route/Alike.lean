import ApiCompiler.Proofs.Route.Overlay

/-!
# Operations that are read alike

A route depends on its document by little: the parameters in the query and in the path, the body and
the response once their references are followed, and a few texts of the operation. Two operations
that agree on these have the same route, each in its own document.
-/

namespace ApiCompiler

namespace Report

variable {α β γ δ : Type}

/-- Sequences agree when what the later parts use of the first results does. -/
theorem outcome_bind_congr {x : Report α} {y : Report β} {k : α → δ} {l : β → δ}
    {f : α → Report γ} {g : β → Report γ} (h : x.outcome.map k = y.outcome.map l)
    (hfg : ∀ a b, k a = l b → (f a).outcome = (g b).outcome) :
    (x >>= f).outcome = (y >>= g).outcome := by
  rw [outcome_bind, outcome_bind]
  cases hx : x.outcome <;> cases hy : y.outcome <;> rw [hx, hy] at h <;>
    simp only [Except.map, Except.error.injEq, Except.ok.injEq, reduceCtorEq] at h
  · rw [h]
    rfl
  · exact hfg _ _ h

end Report

namespace Route

open Document (Operation followed)
open Value (Entries Keyed)

variable {known : Option (List String)} {document other : Value} {operation twin : Operation}

/-! ## Parameters that count -/

/-- Whether a parameter is passed in the query or in the path. -/
def Parameter.isRead (p : Parameter) : Bool :=
  p.location.equals (.text "query") || p.location.equals (.text "path")

/-- Whether a parameter counts: it is read, or its location cannot be a key. -/
def Parameter.counts (p : Parameter) : Bool :=
  p.isRead || !p.location.isHashable

/-- The parameter that a node declares, if it counts. -/
def counted? (document node : Value) : Option Parameter :=
  (parameter? (followed document node)).filter Parameter.counts

/-- The parameters that nodes declare, those that do not count left out. -/
def counted (document : Value) (nodes : List Value) : List Parameter :=
  nodes.filterMap (counted? document)

theorem filter_declared (document : Value) (nodes : List Value) :
    (declared document nodes).filter Parameter.counts = counted document nodes :=
  List.filter_filterMap ..

theorem isRead_eq_of_isAt {p q : Parameter} (h : q.isAt p.name p.location = true) :
    ({ p with location := q.location } : Parameter).isRead = p.isRead := by
  have hlocation (location : String) :
      q.location.equals (.text location) = p.location.equals (.text location) := by
    rw [Bool.eq_iff_iff, Value.equals_text_iff, Value.equals_text_iff]
    exact location_eq_text_iff_of_isAt h location
  rw [Parameter.isRead, Parameter.isRead, hlocation, hlocation]

/-- Parameters that are not read do not move the others. -/
theorem filter_putParameter (parameters : List Parameter) (p : Parameter) :
    (putParameter parameters p).filter Parameter.isRead =
      if p.isRead then putParameter (parameters.filter Parameter.isRead) p
      else parameters.filter Parameter.isRead := by
  induction parameters with
  | nil =>
    rw [putParameter, List.filter_singleton]
    cases p.isRead <;> rfl
  | cons q rest ih =>
    rw [putParameter]
    cases hat : q.isAt p.name p.location with
    | true =>
      have hp := isRead_eq_of_isAt hat
      have hq : q.isRead = p.isRead := hp
      rw [if_pos rfl, List.filter_cons, List.filter_cons, hp, hq]
      cases p.isRead with
      | true => simp only [if_true, putParameter, hat]
      | false => rfl
    | false =>
      rw [if_neg Bool.false_ne_true, List.filter_cons, List.filter_cons, ih]
      cases q.isRead <;> cases p.isRead <;> simp [putParameter, hat]

theorem filter_foldl_putParameter (parameters start : List Parameter) :
    (parameters.foldl putParameter start).filter Parameter.isRead =
      (parameters.filter Parameter.isRead).foldl putParameter (start.filter Parameter.isRead) := by
  induction parameters generalizing start with
  | nil => rfl
  | cons p rest ih =>
    rw [List.foldl_cons, ih, filter_putParameter, List.filter_cons]
    cases p.isRead <;> rfl

/-- A collection can only be told by the parameters that count. -/
theorem collected_filter (parameters start : List Parameter) :
    (collected parameters start).map (List.filter Parameter.isRead) =
      (collected (parameters.filter Parameter.counts) start).map
        (List.filter Parameter.isRead) := by
  have hstops : (parameters.filter Parameter.counts).find? (fun p ↦ !p.location.isHashable) =
      parameters.find? fun p ↦ !p.location.isHashable := by
    rw [List.find?_filter]
    congr 1
    funext p
    rw [Parameter.counts]
    cases p.isRead <;> cases p.location.isHashable <;> rfl
  have hread : (parameters.filter Parameter.counts).filter Parameter.isRead =
      parameters.filter Parameter.isRead := by
    rw [List.filter_filter]
    congr 1
    funext p
    rw [Parameter.counts]
    cases p.isRead <;> rfl
  rw [collected, collected, hstops]
  split
  · rfl
  · simp only [Except.map, filter_foldl_putParameter, hread]

theorem pathSchemas_filter (parameters : List Parameter) (names : List String) :
    pathSchemas known (parameters.filter Parameter.isRead) names =
      pathSchemas known parameters names := by
  have hfind (name : String) : (parameters.filter Parameter.isRead).find?
      (fun p ↦ p.isAt name (.text "path")) =
        parameters.find? fun p ↦ p.isAt name (.text "path") := by
    rw [List.find?_filter]
    congr 1
    funext p
    rw [Parameter.isAt, Parameter.isRead]
    cases p.location.equals (.text "path") <;> cases p.name == name <;> simp
  induction names with
  | nil => rfl
  | cons name rest ih => rw [pathSchemas, pathSchemas, hfind, ih]

theorem querySchemas_filter (parameters : List Parameter) :
    querySchemas known (parameters.filter Parameter.isRead) = querySchemas known parameters := by
  induction parameters with
  | nil => rfl
  | cons p rest ih =>
    rw [List.filter_cons, Parameter.isRead, querySchemas]
    cases hquery : p.location.equals (.text "query") with
    | true => simp only [Bool.true_or, if_true, querySchemas, hquery, ih]
    | false =>
      cases p.location.equals (.text "path") with
      | true => simp [querySchemas, hquery, ih]
      | false => simpa using ih

/-! ## Routes -/

/-- Operations of two documents that are read alike. -/
structure ReadsAlike (document other : Value) (operation twin : Operation) : Prop where
  method_eq : operation.method = twin.method
  path_eq : operation.path = twin.path
  texts_eq : ∀ key ∈ ["operationId", "summary", "description"],
    operation.node.get? key = twin.node.get? key
  counted_eq :
    counted document (parameterList operation.item ++ parameterList operation.node) =
      counted other (parameterList twin.item ++ parameterList twin.node)
  body_eq : followed document ((operation.node.get? "requestBody").getD .null) =
    followed other ((twin.node.get? "requestBody").getD .null)
  response_eq : jsonSchema? (followed document (successResponse operation.node)) =
    jsonSchema? (followed other (successResponse twin.node))

namespace ReadsAlike

variable (h : ReadsAlike document other operation twin)
include h

theorem nameOf_eq (method path : String) :
    nameOf method path operation.node = nameOf method path twin.node := by
  rw [nameOf, nameOf, h.texts_eq "operationId" (by decide)]

theorem describe_eq (method path : String) :
    describe method path operation.node = describe method path twin.node := by
  rw [describe, describe, h.texts_eq "summary" (by decide), h.texts_eq "description" (by decide)]

theorem outcome_collectParameters_eq :
    (collectParameters document operation.node operation.item).outcome.map
        (List.filter Parameter.isRead) =
      (collectParameters other twin.node twin.item).outcome.map (List.filter Parameter.isRead) := by
  rw [outcome_collectParameters, outcome_collectParameters, collected_filter, filter_declared,
    h.counted_eq, ← filter_declared, ← collected_filter]

theorem outcome_bodyOf_eq : (bodyOf document known operation.node).outcome =
    (bodyOf other known twin.node).outcome := by
  refine Report.outcome_bind_congr (k := id) (l := id) ?_ ?_
  · rw [Document.outcome_deref, Document.outcome_deref, h.body_eq]
  · rintro container _ rfl
    rfl

theorem outcome_responseOf_eq : (responseOf document known operation.node).outcome =
    (responseOf other known twin.node).outcome := by
  refine Report.outcome_bind_congr (k := jsonSchema?) (l := jsonSchema?) ?_ ?_
  · rw [Document.outcome_deref, Document.outcome_deref, Except.map, Except.map, h.response_eq]
  · intro container target heq
    simp only [heq]

/-- Operations that are read alike have the same route. -/
theorem outcome_ofOperation_eq :
    (ofOperation document known operation.method operation.path operation.node
        operation.item).outcome =
      (ofOperation other known twin.method twin.path twin.node twin.item).outcome := by
  have hid {α : Type} {x y : Report α} (heq : x.outcome = y.outcome) :
      x.outcome.map id = y.outcome.map id := congrArg _ heq
  rw [ofOperation, ofOperation, h.method_eq, h.path_eq]
  refine Report.outcome_bind_congr (hid rfl) ?_
  rintro path _ rfl
  dsimp only [id]
  split
  · rfl
  · refine Report.outcome_bind_congr h.outcome_collectParameters_eq fun parameters others heq ↦ ?_
    rw [← pathSchemas_filter parameters, ← pathSchemas_filter others, heq]
    refine Report.outcome_bind_congr (hid rfl) ?_
    rintro pathParams _ rfl
    rw [← querySchemas_filter parameters, ← querySchemas_filter others, heq]
    refine Report.outcome_bind_congr (hid rfl) ?_
    rintro queryParams _ rfl
    refine Report.outcome_bind_congr (hid h.outcome_bodyOf_eq) ?_
    rintro body _ rfl
    refine Report.outcome_bind_congr (hid h.outcome_responseOf_eq) ?_
    rintro response _ rfl
    simp only [id, h.nameOf_eq, h.describe_eq]

end ReadsAlike

end Route

end ApiCompiler
