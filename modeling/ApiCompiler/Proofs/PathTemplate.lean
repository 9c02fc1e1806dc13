import ApiCompiler.PathTemplate
import Mathlib.Data.List.Basic

/-!
# Names in path templates

The pieces of a text have no characters but those of the text, so the names of the templates of a
path and its resource are made of characters of the path. When each character of a text is rewritten
and the brackets stay where they are, the contents of the bracketed parts are rewritten in the same
way, and no part is gained or lost. So are the names of the templates of a path.
-/

namespace ApiCompiler.Piece

variable {opening closing : Char} {pending text rest : List Char}

/-- The contents of the bracketed parts of a text. -/
def contents (opening closing : Char) (text : List Char) : List (List Char) :=
  (split opening closing text).filterMap content?

/-! ## Characters of pieces -/

/-- What has been opened is given back, with its bracket, when the text ends before it is closed. -/
def pendingText (opening : Char) (pending : Option (List Char)) : List Char :=
  pending.elim [] (opening :: ·)

theorem flatMap_inner_splitFrom_subset (opening closing : Char) (pending : Option (List Char))
    (text : List Char) :
    (splitFrom opening closing pending text).flatMap inner ⊆
      pendingText opening pending ++ text := by
  fun_induction splitFrom opening closing pending text with
  | case1 => simp
  | case2 content =>
    intro d hd
    simpa [pendingText, inner, List.flatMap_map] using hd
  | case3 rest ih =>
    intro d hd
    simpa [pendingText] using ih hd
  | case4 c rest hne ih =>
    intro d hd
    rcases List.mem_append.mp hd with hd | hd
    · exact List.mem_cons.mpr (.inl (List.mem_singleton.mp hd))
    · exact List.mem_cons_of_mem c (ih hd)
  | case5 content rest hempty ih =>
    intro d hd
    simp only [List.flatMap_cons, inner, List.mem_append, List.mem_singleton] at hd
    simp only [pendingText, Option.elim_some, List.cons_append, List.mem_cons, List.mem_append]
    rcases hd with hd | hd | hd
    · exact .inl hd
    · exact .inr (.inr (.inl hd))
    · exact .inr (.inr (.inr (ih hd)))
  | case6 content rest hempty ih =>
    intro d hd
    simp only [List.flatMap_cons, inner, List.mem_append, List.mem_reverse] at hd
    simp only [pendingText, Option.elim_some, List.cons_append, List.mem_cons, List.mem_append]
    rcases hd with hd | hd
    · exact .inr (.inl hd)
    · exact .inr (.inr (.inr (ih hd)))
  | case7 content c rest hne ih =>
    intro d hd
    have hmem := ih hd
    simp only [pendingText, Option.elim_some, List.cons_append, List.mem_cons,
      List.mem_append] at hmem ⊢
    tauto

theorem subset_of_mem_contents {content : List Char} (h : content ∈ contents opening closing text) :
    content ⊆ text := by
  obtain ⟨piece, hpiece, hcontent⟩ := List.mem_filterMap.mp h
  have hinner : content = piece.inner := by
    cases piece with
    | char c => cases hcontent
    | part content =>
      cases hcontent
      rfl
  rw [hinner]
  exact fun c hc ↦ flatMap_inner_splitFrom_subset opening closing none text
    (List.mem_flatMap.mpr ⟨piece, hpiece, hc⟩)

/-! ## Rewritten texts -/

/-- A way to rewrite characters by texts that leaves the brackets alone and makes no others. -/
structure KeepsBrackets (opening closing : Char) (f : Char → List Char) : Prop where
  opening_eq : f opening = [opening]
  closing_eq : f closing = [closing]
  ne_nil : ∀ c, f c ≠ []
  opening_not_mem : ∀ c, c ≠ opening → opening ∉ f c
  closing_not_mem : ∀ c, c ≠ closing → closing ∉ f c

/-- Behind an opening bracket, everything up to a closing one is content. -/
theorem splitFrom_some_append (h : closing ∉ text) (content rest : List Char) :
    splitFrom opening closing (some content) (text ++ rest) =
      splitFrom opening closing (some (text.reverse ++ content)) rest := by
  induction text generalizing content with
  | nil => rfl
  | cons c text ih =>
    have hc := List.ne_of_not_mem_cons h
    have htext := List.not_mem_of_not_mem_cons h
    rw [List.cons_append, splitFrom, if_neg hc.symm, ih htext, List.reverse_cons,
      List.append_assoc]
    rfl

/-- Outside of brackets, everything up to an opening one is in no part. -/
theorem filterMap_splitFrom_none_append (h : opening ∉ text) (rest : List Char) :
    (splitFrom opening closing none (text ++ rest)).filterMap content? =
      (splitFrom opening closing none rest).filterMap content? := by
  induction text with
  | nil => rfl
  | cons c text ih =>
    have hc := List.ne_of_not_mem_cons h
    have htext := List.not_mem_of_not_mem_cons h
    rw [List.cons_append, splitFrom, if_neg hc.symm, List.filterMap_cons_none rfl, ih htext]

/-- A part that is still open when the text ends is no part. -/
theorem filterMap_splitFrom_some_nil (opening closing : Char) (content : List Char) :
    (splitFrom opening closing (some content) []).filterMap content? = [] := by
  simp [splitFrom, content?]

/-- A part is closed and has a content, unless nothing stands in the brackets. -/
theorem filterMap_splitFrom_some_closing (opening closing : Char) (content rest : List Char) :
    (splitFrom opening closing (some content) (closing :: rest)).filterMap content? =
      (if content = [] then [] else [content.reverse]) ++
        (splitFrom opening closing none rest).filterMap content? := by
  rw [splitFrom, if_pos rfl]
  cases content <;> rfl

/-- The induction is on the text, with the content of an open part in the order of the text. -/
theorem filterMap_splitFrom_flatMap {f : Char → List Char} (h : KeepsBrackets opening closing f)
    (pending : Option (List Char)) (text : List Char) :
    (splitFrom opening closing (pending.map fun content ↦ (content.flatMap f).reverse)
        (text.flatMap f)).filterMap content? =
      ((splitFrom opening closing (pending.map List.reverse) text).filterMap content?).map
        (List.flatMap f) := by
  induction text generalizing pending with
  | nil =>
    cases pending with
    | none => rfl
    | some content =>
      rw [Option.map_some, Option.map_some, List.flatMap_nil, filterMap_splitFrom_some_nil,
        filterMap_splitFrom_some_nil, List.map_nil]
  | cons c rest ih =>
    rw [List.flatMap_cons]
    cases pending with
    | none =>
      rw [Option.map_none, Option.map_none]
      by_cases hc : c = opening
      · rw [hc, h.opening_eq, List.singleton_append, splitFrom, if_pos rfl, splitFrom, if_pos rfl]
        exact ih (some [])
      · rw [filterMap_splitFrom_none_append (h.opening_not_mem c hc), splitFrom, if_neg hc,
          List.filterMap_cons_none rfl]
        exact ih none
    | some content =>
      rw [Option.map_some, Option.map_some]
      by_cases hc : c = closing
      · have hempty : content.flatMap f = [] ↔ content = [] := by
          rw [List.flatMap_eq_nil_iff, List.eq_nil_iff_forall_not_mem]
          exact forall_congr' fun d ↦ imp_congr_right fun _ ↦ iff_of_false (h.ne_nil d) id
        have hrest := ih none
        rw [Option.map_none, Option.map_none] at hrest
        rw [hc, h.closing_eq, List.singleton_append, filterMap_splitFrom_some_closing,
          filterMap_splitFrom_some_closing, List.map_append, ← hrest]
        by_cases hcontent : content = [] <;> simp [hcontent, hempty]
      · have hopened := ih (some (content ++ [c]))
        rw [Option.map_some, Option.map_some, List.flatMap_append, List.flatMap_singleton,
          List.reverse_append, List.reverse_append] at hopened
        rw [splitFrom_some_append (h.closing_not_mem c hc), splitFrom, if_neg hc]
        exact hopened

/-- Rewriting the characters of a text rewrites the contents of its bracketed parts. -/
theorem contents_flatMap {f : Char → List Char} (h : KeepsBrackets opening closing f)
    (text : List Char) :
    contents opening closing (text.flatMap f) =
      (contents opening closing text).map (List.flatMap f) :=
  filterMap_splitFrom_flatMap h none text

end ApiCompiler.Piece

namespace ApiCompiler.PathTemplate

variable {path name : String}

/-! ## Templates -/

/-- The names of the templates are the contents of the braces. -/
theorem mem_params_iff :
    name ∈ params path ↔ name.toList ∈ Piece.contents '\x7b' '\x7d' path.toList := by
  have hfold (contents : List (List Char)) (names : List String) :
      name ∈ contents.foldl (fun names content ↦
          let content := String.ofList content
          if names.contains content then names else names ++ [content]) names ↔
        name ∈ names ∨ name.toList ∈ contents := by
    induction contents generalizing names with
    | nil => simp
    | cons content rest ih =>
      have hname : name = String.ofList content ↔ name.toList = content := by
        rw [← String.toList_inj, String.toList_ofList]
      rw [List.foldl_cons, ih, List.mem_cons, ← hname]
      dsimp only
      split
      · next hmem =>
        have hmem : String.ofList content ∈ names := by simpa using hmem
        constructor
        · rintro (h | h)
          · exact .inl h
          · exact .inr (.inr h)
        · rintro (h | rfl | h)
          · exact .inl h
          · exact .inl hmem
          · exact .inr h
      · rw [List.mem_append, List.mem_singleton, or_assoc]
  refine (hfold (Piece.contents '\x7b' '\x7d' path.toList) []).trans ?_
  rw [List.mem_nil_iff, false_or]

theorem subset_of_mem_params (h : name ∈ params path) : name.toList ⊆ path.toList :=
  Piece.subset_of_mem_contents (mem_params_iff.mp h)

/-- Rewriting the characters of a path rewrites the names of its templates. -/
theorem mem_params_flatMap {f : Char → List Char} (h : Piece.KeepsBrackets '\x7b' '\x7d' f) :
    name ∈ params (String.ofList (path.toList.flatMap f)) ↔
      ∃ template ∈ params path, String.ofList (template.toList.flatMap f) = name := by
  rw [mem_params_iff, String.toList_ofList, Piece.contents_flatMap h, List.mem_map]
  constructor
  · rintro ⟨content, hcontent, hname⟩
    refine ⟨String.ofList content, ?_, ?_⟩
    · rwa [mem_params_iff, String.toList_ofList]
    · rw [String.toList_ofList, hname, String.ofList_toList]
  · rintro ⟨template, htemplate, rfl⟩
    exact ⟨template.toList, mem_params_iff.mp htemplate, String.toList_ofList.symm⟩

/-! ## Resources -/

theorem subset_or_mem_of_mem_pushSegment {segment part : List Char} {others : List (List Char)}
    (h : part ∈ pushSegment segment others) : part ⊆ segment ∨ part ∈ others := by
  unfold pushSegment at h
  split at h
  · exact .inr h
  · rcases List.mem_cons.mp h with rfl | h
    · exact .inl fun d hd ↦ List.mem_reverse.mp hd
    · exact .inr h

theorem subset_of_mem_segmentsFrom {segment text part : List Char}
    (h : part ∈ segmentsFrom segment text) : part ⊆ segment ++ text := by
  induction text generalizing segment with
  | nil =>
    rcases subset_or_mem_of_mem_pushSegment h with h | h
    · rwa [List.append_nil]
    · cases h
  | cons c rest ih =>
    rw [segmentsFrom] at h
    split at h
    · rcases subset_or_mem_of_mem_pushSegment h with h | h
      · exact List.subset_append_of_subset_left _ h
      · have hrest : part ⊆ c :: rest := List.subset_cons_of_subset c (ih h)
        exact List.subset_append_of_subset_right _ hrest
    · intro d hd
      have hmem := ih h hd
      simp only [List.cons_append, List.mem_cons, List.mem_append] at hmem ⊢
      tauto

/-- The resource of a path is made of characters of the path. -/
theorem subset_of_resource?_eq_some (h : resource? path = some name) :
    name.toList ⊆ path.toList := by
  rw [resource?] at h
  split at h
  · obtain ⟨segment, hsegment, rfl⟩ := Option.map_eq_some_iff.mp h
    have hpath : segment ⊆ path.toList := by
      simpa using subset_of_mem_segmentsFrom (List.mem_of_mem_head? hsegment)
    intro d hd
    rw [String.toList_ofList] at hd
    exact hpath (Piece.flatMap_inner_splitFrom_subset '\x7b' '\x7d' none segment hd)
  · cases h

end ApiCompiler.PathTemplate
