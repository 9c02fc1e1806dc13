import ApiCompiler.Document.Sample
import ApiCompiler.Proofs.Document.Chain
import ApiCompiler.Proofs.Route.Alike

/-!
# Operations with targets in the places of references

A parameter, a request body or a response may be stated by reference. An operation in which some of
these are replaced by what they lead to, null for a reference that leads nowhere or in circles, has
the same route: what a node leads to leads to itself, so nothing shows how often the references of a
place are followed.
-/

namespace ApiCompiler.Route

open Document (followed followed_followed reference? Chain)
open Document.Sample (object)
open Value (Entries Keyed)

variable {document : Value} {entries twins operation twin item twinItem : Entries}

/-! ## Entries that are related one by one -/

/-- Two mappings have the same keys in the same order, and what stands under a key is related. -/
def Entrywise (R : Value → Value → Value → Prop) (entries twins : Entries) : Prop :=
  List.Forall₂ (fun entry twin ↦ twin.1 = entry.1 ∧ R entry.1 entry.2 twin.2) entries twins

/-- Related mappings are read alike by their keys. -/
theorem Entrywise.rel_find? {R : Value → Value → Value → Prop} (h : Entrywise R entries twins)
    (isKey : Value → Bool) :
    Option.Rel (fun value other ↦ ∃ key, isKey key = true ∧ R key value other)
      ((entries.find? fun entry ↦ isKey entry.1).map Prod.snd)
      ((twins.find? fun entry ↦ isKey entry.1).map Prod.snd) := by
  induction h with
  | nil => exact .none
  | @cons entry twin _ _ hfirst _ ih =>
    rw [List.find?_cons, List.find?_cons, hfirst.1]
    cases hkey : isKey entry.1 with
    | true => exact .some ⟨entry.1, hkey, hfirst.2⟩
    | false => exact ih

/-! ## Nodes in the places of others -/

/-- A node that stands for another one: the node itself, or what it leads to. -/
def IsInline (document node twin : Value) : Prop :=
  twin = node ∨ twin = followed document node

theorem IsInline.followed_eq {node twin : Value} (h : IsInline document node twin) :
    followed document twin = followed document node := by
  rcases h with rfl | rfl
  · rfl
  · exact followed_followed document node

/-- What stands under a key of an operation or a path item, and the same with some of the
parameters, the request body or some of the responses inlined. -/
inductive InlinesAt (document : Value) : Value → Value → Value → Prop
  | same (key value : Value) : InlinesAt document key value value
  | parameters {nodes twins : List Value} (h : List.Forall₂ (IsInline document) nodes twins) :
      InlinesAt document (.text "parameters") (.list nodes) (.list twins)
  | requestBody (node : Value) :
      InlinesAt document (.text "requestBody") node (followed document node)
  | responses {entries twins : Entries}
      (h : Entrywise (fun _ ↦ IsInline document) entries twins) :
      InlinesAt document (.text "responses") (.map entries) (.map twins)

/-- An operation or a path item with some of its parameters, its request body and its responses
inlined. -/
def Inlines (document : Value) (operation twin : Entries) : Prop :=
  Entrywise (InlinesAt document) operation twin

namespace Inlines

theorem rel_get? (h : Inlines document operation twin) (key : String) :
    Option.Rel (InlinesAt document (.text key)) (operation.get? key) (twin.get? key) := by
  have hrel := h.rel_find? (Keyed.keyIs key)
  rw [← Keyed.get?, ← Keyed.get?] at hrel
  generalize operation.get? key = value? at hrel ⊢
  generalize twin.get? key = other? at hrel ⊢
  cases hrel with
  | none => exact .none
  | some hentry =>
    obtain ⟨found, hkey, hat⟩ := hentry
    exact .some (Keyed.keyIs_iff.mp hkey ▸ hat)

/-- Nothing but parameters, the request body and responses is inlined. -/
theorem get?_eq (h : Inlines document operation twin) {key : String}
    (hkey : key ∉ ["parameters", "requestBody", "responses"]) :
    operation.get? key = twin.get? key := by
  have hrel := h.rel_get? key
  generalize hat : Value.text key = at' at hrel
  generalize operation.get? key = value? at hrel ⊢
  generalize twin.get? key = other? at hrel ⊢
  cases hrel with
  | none => rfl
  | some hentry =>
    cases hentry with
    | same => rfl
    | _ =>
      cases hat
      simp at hkey

theorem forall₂_parameterList (h : Inlines document operation twin) :
    List.Forall₂ (IsInline document) (parameterList operation) (parameterList twin) := by
  have hsame (nodes : List Value) : List.Forall₂ (IsInline document) nodes nodes :=
    List.forall₂_same.mpr fun node _ ↦ .inl rfl
  have hrel := h.rel_get? "parameters"
  rw [parameterList, parameterList]
  generalize hat : Value.text "parameters" = key at hrel
  generalize operation.get? "parameters" = value? at hrel ⊢
  generalize twin.get? "parameters" = other? at hrel ⊢
  cases hrel with
  | none => exact .nil
  | some hentry =>
    cases hentry with
    | same => exact hsame _
    | parameters hnodes => exact hnodes
    | requestBody | responses => simp at hat

theorem followed_requestBody_eq (h : Inlines document operation twin) :
    followed document ((operation.get? "requestBody").getD .null) =
      followed document ((twin.get? "requestBody").getD .null) := by
  have hrel := h.rel_get? "requestBody"
  generalize hat : Value.text "requestBody" = key at hrel
  generalize operation.get? "requestBody" = value? at hrel ⊢
  generalize twin.get? "requestBody" = other? at hrel ⊢
  cases hrel with
  | none => rfl
  | some hentry =>
    cases hentry with
    | same => rfl
    | requestBody => exact (followed_followed document _).symm
    | parameters | responses => simp at hat

/-- Inlining responses keeps the code whose response counts. -/
theorem isInline_findSome? (h : Entrywise (fun _ ↦ IsInline document) entries twins)
    (codes : List Value) :
    IsInline document ((codes.findSome? (Keyed.lookup? entries)).getD .null)
      ((codes.findSome? (Keyed.lookup? twins)).getD .null) := by
  induction codes with
  | nil => exact .inl rfl
  | cons code rest ih =>
    have hrel := h.rel_find? fun key ↦ key.equals code
    rw [← Keyed.lookup?, ← Keyed.lookup?] at hrel
    rw [List.findSome?_cons, List.findSome?_cons]
    generalize Keyed.lookup? entries code = value? at hrel ⊢
    generalize Keyed.lookup? twins code = other? at hrel ⊢
    cases hrel with
    | none => exact ih
    | some hentry =>
      obtain ⟨_, _, hinline⟩ := hentry
      exact hinline

theorem isInline_successResponse (h : Inlines document operation twin) :
    IsInline document (successResponse operation) (successResponse twin) := by
  have hrel := h.rel_get? "responses"
  rw [successResponse, successResponse]
  generalize hat : Value.text "responses" = key at hrel
  generalize operation.get? "responses" = value? at hrel ⊢
  generalize twin.get? "responses" = other? at hrel ⊢
  cases hrel with
  | none => exact .inl rfl
  | some hentry =>
    cases hentry with
    | same => exact .inl rfl
    | responses hresponses => exact isInline_findSome? hresponses successCodes
    | parameters | requestBody => simp at hat

end Inlines

/-! ## Routes -/

/-- Nodes in the places of others declare the same parameters. -/
theorem counted_eq_of_inline {nodes twins : List Value}
    (h : List.Forall₂ (IsInline document) nodes twins) :
    counted document nodes = counted document twins := by
  induction h with
  | nil => rfl
  | cons hfirst _ ih =>
    rw [counted, counted, List.filterMap_cons, List.filterMap_cons, counted?, counted?,
      hfirst.followed_eq, ← counted, ← counted, ih]

/-- An operation is read as one with nodes inlined. -/
theorem Inlines.readsAlike (h : Inlines document operation twin)
    (hitem : Inlines document item twinItem) (method : String) (path : Value) :
    ReadsAlike document document ⟨method, path, operation, item⟩
      ⟨method, path, twin, twinItem⟩ where
  method_eq := rfl
  path_eq := rfl
  texts_eq key hkey := by
    refine h.get?_eq ?_
    simp only [List.mem_cons, List.not_mem_nil, or_false] at hkey
    rcases hkey with rfl | rfl | rfl <;> decide
  counted_eq := by
    have hparts := List.rel_append hitem.forall₂_parameterList h.forall₂_parameterList
    exact counted_eq_of_inline hparts
  body_eq := h.followed_requestBody_eq
  response_eq := by rw [h.isInline_successResponse.followed_eq]

/-- Following a node ends, along a chain without repetition and no longer than the references of the
document, with null or with a node that is no reference; and an operation has the same route with
its parameters, its request body and its responses replaced by what they lead to. -/
theorem outcome_ofOperation_inlined (document : Value) :
    (∀ node, ∃ result references, (Document.deref document node).outcome = .ok result ∧
      reference? result = none ∧ Chain.Finds document node references result ∧
        references.Nodup ∧ references.length ≤ (Document.references document).length + 1) ∧
      ∀ operation twin item twinItem, Inlines document operation twin →
        Inlines document item twinItem → ∀ known method path,
          (ofOperation document known method path operation item).outcome =
            (ofOperation document known method path twin twinItem).outcome := by
  constructor
  · intro node
    obtain ⟨references, hnodup, hlength, hfinds⟩ := Chain.exists_finds document node
    exact ⟨followed document node, references, Document.outcome_deref document node,
      hfinds.reference?_eq_none, hfinds, hnodup, hlength⟩
  · intro operation twin item twinItem hoperation hitem known method path
    exact (hoperation.readsAlike hitem method path).outcome_ofOperation_eq

/-- JSON content of some type. -/
def jsonContent (type : String) : Value :=
  object [("content", object [("application/json", object [("schema",
    object [("type", .text type)])])])]

/-- A parameter in the query. -/
def limitParameter : Value :=
  object [("name", .text "limit"), ("in", .text "query"),
    ("schema", object [("type", .text "integer")])]

/-- A node that consists of a reference. -/
def pointer (reference : String) : Value :=
  object [("$ref", .text reference)]

/-- A document with a reference to a reference and with references in a circle. -/
def circularDocument : Value :=
  object [
    ("parameters", object [("limit", limitParameter), ("alias", pointer "#/parameters/limit")]),
    ("circle", object [("one", pointer "#/circle/two"), ("two", pointer "#/circle/one")]),
    ("body", jsonContent "string"),
    ("response", jsonContent "boolean")]

/-- An operation with two parameters, a body and a response. -/
def operationWith (first second body response : Value) : Entries :=
  [(.text "parameters", .list [first, second]), (.text "requestBody", body),
    (.text "responses", object [("200", response)])]

/-- An operation that states all its parts by reference. -/
def referringOperation : Entries :=
  operationWith (pointer "#/parameters/alias") (pointer "#/circle/one") (pointer "#/body")
    (pointer "#/response")

/-- The operation with the targets in the places of the references. -/
def inlinedOperation : Entries :=
  operationWith limitParameter .null (jsonContent "string") (jsonContent "boolean")

/-- A path item with one parameter. -/
def itemWith (parameter : Value) : Entries :=
  [(.text "parameters", .list [parameter])]

theorem outcome_ofOperation_circularDocument :
    Inlines circularDocument referringOperation inlinedOperation ∧
      Inlines circularDocument (itemWith (pointer "#/nowhere")) (itemWith .null) ∧
        (ofOperation circularDocument none "post" (.text "/items") referringOperation
            (itemWith (pointer "#/nowhere"))).outcome =
          (ofOperation circularDocument none "post" (.text "/items") inlinedOperation
            (itemWith .null)).outcome ∧
        ∃ route?, (ofOperation circularDocument none "post" (.text "/items") inlinedOperation
            (itemWith .null)).outcome = .ok route? ∧
          (route?.map fun route ↦ (route.queryParams.names, route.body.isSome)) =
            some (["limit"], true) := by
  have halias : limitParameter = followed circularDocument (pointer "#/parameters/alias") :=
    (Chain.Finds.arrives (.cons rfl rfl (.cons rfl rfl (.nil _))) rfl).eq_followed (by decide)
  have hcircle : .null = followed circularDocument (pointer "#/circle/one") :=
    (Chain.Finds.repeats (.cons rfl rfl (.cons rfl rfl (.nil _))) rfl (by decide)).eq_followed
      (by decide)
  have hnowhere : .null = followed circularDocument (pointer "#/nowhere") :=
    (Chain.Finds.dangles (.nil _) rfl rfl).eq_followed List.nodup_nil
  have hbody : jsonContent "string" = followed circularDocument (pointer "#/body") :=
    (Chain.Finds.arrives (.cons rfl rfl (.nil _)) rfl).eq_followed (by decide)
  have hresponse : jsonContent "boolean" = followed circularDocument (pointer "#/response") :=
    (Chain.Finds.arrives (.cons rfl rfl (.nil _)) rfl).eq_followed (by decide)
  have hoperation : Inlines circularDocument referringOperation inlinedOperation := by
    refine .cons ⟨rfl, ?_⟩ (.cons ⟨rfl, ?_⟩ (.cons ⟨rfl, ?_⟩ .nil))
    · exact .parameters (.cons (.inr halias) (.cons (.inr hcircle) .nil))
    · dsimp only
      rw [hbody]
      exact .requestBody (pointer "#/body")
    · exact .responses (.cons ⟨rfl, .inr hresponse⟩ .nil)
  have hitem : Inlines circularDocument (itemWith (pointer "#/nowhere")) (itemWith .null) :=
    .cons ⟨rfl, .parameters (.cons (.inr hnowhere) .nil)⟩ .nil
  exact ⟨hoperation, hitem,
    (outcome_ofOperation_inlined circularDocument).2 _ _ _ _ hoperation hitem none "post"
      (.text "/items"),
    by decide +kernel⟩

end ApiCompiler.Route
