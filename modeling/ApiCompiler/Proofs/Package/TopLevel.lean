import ApiCompiler.Proofs.Model.Closed
import ApiCompiler.Proofs.Package.Source

/-!
# Names bound by a module

The statements of a generated module begin at the start of a line; what is indented belongs to the
statement above it, and the text of a literal to the line that opens it. So the names that a module
binds are read off its text, line by line, once its literals are blanked. Source that ends its last
line binds what its pieces bind, in their order.
-/

namespace ApiCompiler

namespace Text

open Place

/-! ## Names bound by a line -/

/-- The names that a statement binds, given its first word, the names behind it, and whether the
word is assigned to. An import binds what it lists, and a definition the name behind its keyword. -/
def boundBy (word : String) (names : List String) (isAssigned : Bool) : List String :=
  if word = "import" then names
  else if word = "from" then (names.dropWhile fun name ↦ name != "import").tail
  else if word = "class" ∨ word = "def" then names.take 1
  else if word = "async" then (names.drop 1).take 1
  else if isAssigned then [word]
  else []

/-- The names that a line without literals binds. A line that begins with anything but a word is no
statement of its own, or none that binds. -/
def boundInLine (line : List Char) : List String :=
  if line.head?.any isNameChar then
    let rest := line.dropWhile isNameChar
    boundBy (String.ofList (line.takeWhile isNameChar)) ((namesIn rest).map String.ofList)
      ([' ', '='].isPrefixOf rest)
  else []

/-- The names that lines without literals bind, in order. -/
def boundInLines (text : List Char) : List String :=
  (text.splitOnP fun c ↦ c == '\n').flatMap boundInLine

/-- The names that a module binds, given its text. -/
def boundNames (text : String) : List String :=
  boundInLines (code.blanked text.toList)

example : boundNames "from a import b, c\n\nclass D:\n    e = \"\"\"f\ng = 1\"\"\"\n\nh = 2\n" =
    ["b", "c", "D", "h"] := by
  decide

variable {word : List Char} {c : Char}

theorem boundInLine_of_head {line : List Char} (h : line.head?.any isNameChar = false) :
    boundInLine line = [] := by
  rw [boundInLine, if_neg (Bool.eq_false_iff.mp h)]

/-- A line with a word in front. -/
theorem boundInLine_word (hne : word ≠ []) (hchars : word.all isNameChar = true)
    (hc : isNameChar c = false) (rest : List Char) :
    boundInLine (word ++ c :: rest) = boundBy (String.ofList word)
      ((namesIn rest).map String.ofList) ([' ', '='].isPrefixOf (c :: rest)) := by
  have hword : ∀ c ∈ word, isNameChar c = true := List.all_eq_true.mp hchars
  have hhead : (word ++ c :: rest).head?.any isNameChar = true := by
    obtain ⟨first, tail, rfl⟩ := List.exists_cons_of_ne_nil hne
    exact hword first (List.mem_cons_self ..)
  have htake : (word ++ c :: rest).takeWhile isNameChar = word := by
    rw [List.takeWhile_append_of_pos hword, List.takeWhile_cons_of_neg (Bool.eq_false_iff.mp hc),
      List.append_nil]
  have hdrop : (word ++ c :: rest).dropWhile isNameChar = c :: rest := by
    rw [List.dropWhile_append_of_pos hword, List.dropWhile_cons_of_neg (Bool.eq_false_iff.mp hc)]
  rw [boundInLine, if_pos hhead]
  simp only [htake, hdrop, namesIn_cons hc]

theorem boundInLines_nil : boundInLines [] = [] :=
  rfl

theorem boundInLines_append_cons (text rest : List Char) :
    boundInLines (text ++ '\n' :: rest) = boundInLines text ++ boundInLines rest := by
  rw [boundInLines, List.splitOnP_append_cons text rest (by rfl), List.flatMap_append]
  rfl

theorem boundInLines_of_not_mem {line : List Char} (h : '\n' ∉ line) :
    boundInLines line = boundInLine line := by
  have hsingle : line.splitOnP (fun c ↦ c == '\n') = [line] :=
    List.splitOnP_eq_singleton fun c hc ↦ beq_false_of_ne fun heq ↦ h (heq ▸ hc)
  rw [boundInLines, hsingle, List.flatMap_singleton]

/-! ## Lines -/

/-- A text that makes a line of its own. -/
structure IsLine (text : String) : Prop where
  isClosed : IsClosed text
  not_mem : '\n' ∉ text.toList

theorem IsPlain.not_mem_lineEnd {a : String} (h : IsPlain a) : '\n' ∉ a.toList :=
  fun hmem ↦ absurd (h _ hmem) (by decide)

theorem IsPlain.isLine {a : String} (h : IsPlain a) : IsLine a :=
  ⟨h.isSnippet.isClosed, h.not_mem_lineEnd⟩

theorem isLine_ofList {text : List Char} (h : (code.after text).isOutside = true ∧ '\n' ∉ text) :
    IsLine (String.ofList text) := by
  refine ⟨isClosed_ofList h.1, ?_⟩
  rw [String.toList_ofList]
  exact h.2

end Text

namespace Package.Source

open Text (Place IsClosed IsLine IsPlain boundInLine boundInLines)
open Text.Place

variable {source rest : Source} {names others texts : List String}

/-! ## Names bound by source -/

/-- Source that is scanned from code to code, ends its last line and binds the names. -/
structure Binds (source : Source) (names : List String) : Prop where
  isWhole : IsWhole source
  boundInLines_append : ∀ following : List Char,
    boundInLines (code.blanked source.render.toList ++ following) =
      names ++ boundInLines following

theorem Binds.boundNames_eq (h : Binds source names) : Text.boundNames source.render = names := by
  have hnames := h.boundInLines_append []
  rwa [List.append_nil, Text.boundInLines_nil, List.append_nil] at hnames

theorem render_append (source rest : Source) :
    (Source.render (source ++ rest)).toList = source.render.toList ++ rest.render.toList := by
  rw [Source.render, List.map_append, String.join_append, String.toList_append]
  rfl

theorem binds_nil : Binds [] [] :=
  ⟨isWhole_nil, fun _ ↦ rfl⟩

theorem Binds.append (h : Binds source names) (hrest : Binds rest others) :
    Binds (source ++ rest) (names ++ others) where
  isWhole := h.isWhole.append hrest.isWhole
  boundInLines_append following := by
    rw [render_append, blanked_append, h.isWhole.after_render, List.append_assoc,
      h.boundInLines_append, hrest.boundInLines_append, List.append_assoc]

theorem binds_flatMap {α : Type} {members : List α} {f : α → Source} {g : α → List String}
    (h : ∀ a ∈ members, Binds (f a) (g a)) : Binds (members.flatMap f) (members.flatMap g) := by
  induction members with
  | nil => exact binds_nil
  | cons a rest ih =>
    obtain ⟨ha, hrest⟩ := List.forall_mem_cons.mp h
    exact ha.append (ih hrest)

/-! ## Lines -/

theorem render_line (text : String) :
    (Source.render [line text]).toList = text.toList ++ ['\n'] := by
  rw [render_cons, line, Chunk.render, String.toList_append, List.append_assoc]
  rfl

variable {text : String}

/-- Whole source that makes up one line binds what the line does without the free texts. -/
theorem binds_of_render (h : IsWhole source) (hline : IsLine text)
    (hrender : source.blank.render.toList = text.toList ++ ['\n']) :
    Binds source (boundInLine (code.blanked text.toList)) where
  isWhole := h
  boundInLines_append following := by
    have hblanked : code.blanked (text.toList ++ ['\n']) = code.blanked text.toList ++ ['\n'] := by
      rw [blanked_append, blanked_cons, blanked_nil, kept_of_isOutside hline.isClosed,
        List.append_nil]
    have hmem : '\n' ∉ code.blanked text.toList :=
      fun hmem ↦ hline.not_mem (Text.mem_of_mem_blanked hmem)
    rw [Spans.blanked_render h, hrender, hblanked, List.append_assoc, List.singleton_append,
      Text.boundInLines_append_cons, Text.boundInLines_of_not_mem hmem]

/-- A line that begins with anything but a name binds nothing. -/
theorem binds_of_render_of_head (h : IsWhole source) (hline : IsLine text)
    (hrender : source.blank.render.toList = text.toList ++ ['\n'])
    (hhead : text.toList.head?.any Text.isNameChar = false) : Binds source [] := by
  have hkept : (code.blanked text.toList).head? = text.toList.head? := by
    cases text.toList <;> rfl
  have hnone := Text.boundInLine_of_head (hkept ▸ hhead)
  exact hnone ▸ binds_of_render h hline hrender

theorem binds_text (h : IsLine text) : Binds [line text] (boundInLine (code.blanked text.toList)) :=
  binds_of_render (isWhole_line h.isClosed) h (render_line text)

theorem binds_text_of_head (h : IsLine text)
    (hhead : text.toList.head?.any Text.isNameChar = false) : Binds [line text] [] :=
  binds_of_render_of_head (isWhole_line h.isClosed) h (render_line text) hhead

theorem binds_plain (h : IsPlain text) : Binds [line text] (boundInLine text.toList) := by
  have hnames := binds_text h.isLine
  rwa [h.blanked_code] at hnames

/-- A plain line in which a quoted literal stands. -/
theorem binds_quoted {before rest : String} (hbefore : IsPlain before) (hrest : IsPlain rest)
    (hbegins : beginsCode [line rest] = true)
    (hhead : (before ++ "\"\"" ++ rest).toList.head?.any Text.isNameChar = false)
    (content : String) : Binds [.code before, .quoted content, line rest] [] := by
  have hquotes : IsClosed (before ++ "\"\"") := by
    rw [Text.IsClosed, String.toList_append, after_append, hbefore.after_code]
    rfl
  have hline : IsLine (before ++ "\"\"" ++ rest) := by
    refine ⟨hquotes.append hrest.isSnippet, ?_⟩
    simp only [String.toList_append, List.mem_append, not_or]
    exact ⟨⟨hbefore.not_mem_lineEnd, by decide⟩, hrest.not_mem_lineEnd⟩
  have hwhole := (isWhole_line hrest.isSnippet.isClosed).quoted hbegins content
  refine binds_of_render_of_head ((isWhole_code hbefore).append hwhole) hline ?_ hhead
  have hliteral : (Chunk.quoted "").render = "\"\"" := by decide
  show (Source.render [.code before, .quoted "", line rest]).toList = _
  rw [render_cons, render_cons, render_line, hliteral, String.toList_append, String.toList_append,
    List.append_assoc, List.append_assoc]
  rfl

/-- A line that whole source begins and closed text ends. -/
theorem binds_line_of_head (h : IsWhole source) (htext : IsClosed text)
    (hline : '\n' ∉ (source.blank.render ++ text).toList)
    (hhead : (source.blank.render ++ text).toList.head?.any Text.isNameChar = false) :
    Binds (source ++ [line text]) [] := by
  have hclosed : IsClosed (source.blank.render ++ text) := by
    have hwhole : IsWhole source.blank := spans_blank.mpr h
    rw [Text.IsClosed, String.toList_append, after_append, hwhole.after_render]
    exact htext
  refine binds_of_render_of_head (h.append (isWhole_line htext)) ⟨hclosed, hline⟩ ?_ hhead
  rw [Source.blank, List.map_append, render_append, String.toList_append, List.append_assoc]
  exact congrArg _ (render_line text)

/-- A line of fixed text that begins with anything but a name binds nothing. -/
theorem binds_ofList_of_head {text : List Char}
    (h : (code.after text).isOutside = true ∧ '\n' ∉ text)
    (hhead : text.head?.any Text.isNameChar = false) : Binds [line (String.ofList text)] [] :=
  binds_text_of_head (Text.isLine_ofList h) (String.toList_ofList ▸ hhead)

theorem binds_blank : Binds [line ""] [] := by
  exact binds_ofList_of_head (by decide) (by decide)

/-- The names that lines of fixed text bind, if each of them makes a line of its own. -/
def boundByLines? : List (List Char) → Option (List String)
  | [] => some []
  | text :: rest =>
    if (code.after text).isOutside ∧ '\n' ∉ text then
      (boundByLines? rest).map (boundInLine (code.blanked text) ++ ·)
    else none

/-- Lines of fixed text. Their characters are found by unification, so that only one hole for each
line has to be given. -/
theorem binds_fixedLines (texts : List (List Char)) (h : boundByLines? texts = some names) :
    Binds (lines (texts.map String.ofList)) names := by
  induction texts generalizing names with
  | nil =>
    cases h
    exact binds_nil
  | cons text rest ih =>
    rw [boundByLines?] at h
    split at h
    · next hline =>
      obtain ⟨others, hrest, rfl⟩ := Option.map_eq_some_iff.mp h
      have hfirst := binds_text (Text.isLine_ofList hline)
      rw [String.toList_ofList] at hfirst
      exact hfirst.append (ih hrest)
    · cases h

theorem binds_flatMap_nil {α : Type} {members : List α} {f : α → Source}
    (h : ∀ a ∈ members, Binds (f a) []) : Binds (members.flatMap f) [] := by
  have hnone : members.flatMap (fun _ ↦ ([] : List String)) = [] :=
    List.flatMap_eq_nil_iff.mpr fun _ _ ↦ rfl
  exact hnone ▸ binds_flatMap h

theorem binds_map_line {α : Type} {members : List α} {f : α → String}
    (h : ∀ a ∈ members, Binds [line (f a)] []) : Binds (members.map fun a ↦ line (f a)) [] := by
  have hlines : (members.map fun a ↦ line (f a)) = members.flatMap fun a ↦ [line (f a)] := by
    rw [List.map_eq_flatMap]
  rw [hlines]
  exact binds_flatMap_nil h

/-! ## Documentation -/

/-- Source that stays inside of the documentation of a module. -/
structure IsDoc (source : Source) : Prop where
  spans : Spans (long '"' false 0) source (long '"' false 0)
  blanked_eq : (long '"' false 0).blanked source.render.toList = []

theorem IsDoc.append (h : IsDoc source) (hrest : IsDoc rest) : IsDoc (source ++ rest) where
  spans := h.spans.append hrest.spans
  blanked_eq := by
    rw [render_append, blanked_append, h.spans.after_render, h.blanked_eq, hrest.blanked_eq]
    rfl

theorem isDoc_doc (text : String) : IsDoc [.doc text] where
  spans := rfl
  blanked_eq := by
    have hstays := staysIn_docstringChars text.toList
    rw [render_cons, Chunk.render, Text.docstring, String.toList_ofList, blanked_append,
      hstays.blanked_eq, hstays.after_eq]
    rfl

theorem isDoc_code (h : (long '"' false 0).StaysIn text.toList) : IsDoc [.code text] where
  spans := congrArg some h.after_eq
  blanked_eq := by
    rw [render_cons, Chunk.render, blanked_append, h.blanked_eq, h.after_eq]
    rfl

theorem isDoc_line (h : (long '"' false 0).StaysIn text.toList) : IsDoc [line text] := by
  refine isDoc_code ?_
  rw [String.toList_append]
  exact h.append ⟨rfl, rfl⟩

theorem isDoc_ofList {text : List Char} (h : (long '"' false 0).after text = long '"' false 0 ∧
    (long '"' false 0).blanked text = []) : IsDoc [line (String.ofList text)] := by
  refine isDoc_line ?_
  rw [String.toList_ofList]
  exact ⟨h.1, h.2⟩

/-- Source that opens the documentation of a module. -/
structure IsOpening (source : Source) : Prop where
  spans : Spans code source (long '"' false 0)
  blanked_eq : code.blanked source.render.toList = ['"', '"', '"']

theorem isOpening_code {text : List Char} (h : code.after text = long '"' false 0 ∧
    code.blanked text = ['"', '"', '"']) : IsOpening [.code (String.ofList text)] where
  spans := by rw [Spans, scan, String.toList_ofList, h.1, scan]
  blanked_eq := by
    rw [render_cons, Chunk.render, String.toList_ofList, blanked_append, h.1, h.2]
    rfl

theorem isOpening_line {text : List Char} (h : code.after text = long '"' false 0 ∧
    code.blanked text = ['"', '"', '"']) : IsOpening [line (String.ofList text)] where
  spans := by
    rw [Spans, line, scan, String.toList_append, String.toList_ofList, after_append, h.1, scan]
    rfl
  blanked_eq := by
    rw [render_line, String.toList_ofList, blanked_append, h.1, h.2]
    rfl

/-- The documentation of a module binds nothing. -/
theorem binds_documentation {opening : Source} (hopening : IsOpening opening) (h : IsDoc source) :
    Binds (opening ++ source ++ [line "\"\"\""]) [] where
  isWhole := (hopening.spans.append h.spans).append spans_docEnd
  boundInLines_append following := by
    have hend : (long '"' false 0).blanked (Source.render [line "\"\"\""]).toList =
        ['"', '"', '"', '\n'] := by
      decide
    have hquotes : boundInLines ['"', '"', '"', '"', '"', '"'] = [] := by decide
    calc
      boundInLines (code.blanked (Source.render (opening ++ source ++ [line "\"\"\""])).toList ++
          following) =
          boundInLines (['"', '"', '"', '"', '"', '"'] ++ '\n' :: following) := by
        rw [render_append, render_append, blanked_append, blanked_append, after_append,
          hopening.spans.after_render, h.spans.after_render, hopening.blanked_eq, h.blanked_eq,
          hend]
        rfl
      _ = [] ++ boundInLines following := by rw [Text.boundInLines_append_cons, hquotes]

end Package.Source

end ApiCompiler
