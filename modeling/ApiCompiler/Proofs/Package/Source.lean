import ApiCompiler.Package.Source
import ApiCompiler.Proofs.Text.Snippet

/-!
# Scanning generated source

Source is scanned chunk by chunk. Where every free text stands inside of a literal that the code
around it has opened, the scan of the whole text is that of the code alone: it ends at the same
place whatever the free texts are, and blanking the literals removes them.
-/

namespace ApiCompiler.Package

open Text (Place IsClosed IsPlain isQuote)
open Text.Place

/-- A chunk without its free text. -/
def Chunk.blank : Chunk → Chunk
  | code text => code text
  | doc _ => doc ""
  | quoted _ => quoted ""

namespace Source

/-- Source without its free texts. -/
def blank (source : Source) : Source :=
  source.map Chunk.blank

/-- Source that begins with code and not with a quote. -/
def beginsCode : Source → Bool
  | .code text :: _ => text.toList.head?.any fun c ↦ !isQuote c
  | _ => false

/-- Where a scan of source ends that begins at a place, unless a documentation text stands outside
of its literal or a quoted literal is not set in code. -/
def scan : Place → Source → Option Place
  | place, [] => some place
  | place, .code text :: rest => scan (place.after text.toList) rest
  | place, .doc _ :: rest => if place = long '"' false 0 then scan place rest else none
  | place, .quoted _ :: rest => if place = code ∧ beginsCode rest then scan place rest else none

/-- Source that leads a scan from one place to another, with each free text where it belongs. -/
def Spans (place : Place) (source : Source) (final : Place) : Prop :=
  scan place source = some final

instance (place : Place) (source : Source) (final : Place) : Decidable (Spans place source final) :=
  inferInstanceAs (Decidable (_ = _))

variable {place middle final : Place} {source rest : Source}

theorem beginsCode_append (h : beginsCode source = true) : beginsCode (source ++ rest) = true := by
  cases source with
  | nil => cases h
  | cons chunk tail => cases chunk <;> exact h

theorem Spans.append (h : Spans place source middle) (hrest : Spans middle rest final) :
    Spans place (source ++ rest) final := by
  induction source generalizing place with
  | nil =>
    obtain rfl : place = middle := Option.some.inj h
    exact hrest
  | cons chunk tail ih =>
    cases chunk with
    | code text => exact ih h
    | doc text =>
      rw [Spans, scan] at h
      rw [Spans, List.cons_append, scan]
      split at h
      · next hplace =>
        rw [if_pos hplace]
        exact ih h
      · cases h
    | quoted text =>
      rw [Spans, scan] at h
      rw [Spans, List.cons_append, scan]
      split at h
      · next hplace =>
        rw [if_pos ⟨hplace.1, beginsCode_append hplace.2⟩]
        exact ih h
      · cases h

/-- A line leads where its characters lead. -/
theorem spans_lines_cons {text : List Char} {texts : List String} (middle : Place)
    (h : place.after (text ++ ['\n']) = middle) (hrest : Spans middle (lines texts) final) :
    Spans place (lines (String.ofList text :: texts)) final := by
  have hchars : (String.ofList text ++ "\n").toList = text ++ ['\n'] := by
    rw [String.toList_append, String.toList_ofList]
    rfl
  rw [lines, List.map_cons, ← lines, line, Spans, scan, hchars, h]
  exact hrest

/-- A documentation text may stand where code has opened its literal. -/
theorem spans_doc {start : List Char} (h : place.after start = long '"' false 0)
    (hrest : Spans (long '"' false 0) rest final) (text : String) :
    Spans place (.code (String.ofList start) :: .doc text :: rest) final := by
  rw [Spans, scan, String.toList_ofList, h, scan, if_pos rfl]
  exact hrest

/-! ## Free texts -/

theorem beginsCode_blank (source : Source) : beginsCode source.blank = beginsCode source := by
  cases source with
  | nil => rfl
  | cons chunk tail => cases chunk <;> rfl

/-- Where a scan ends does not depend on the free texts. -/
theorem scan_blank (place : Place) (source : Source) :
    scan place source.blank = scan place source := by
  induction source generalizing place with
  | nil => rfl
  | cons chunk tail ih =>
    rw [blank, List.map_cons, ← blank]
    cases chunk with
    | code text => exact ih _
    | doc text => rw [Chunk.blank, scan, scan, ih]
    | quoted text => rw [Chunk.blank, scan, scan, ih, beginsCode_blank]

theorem spans_blank : Spans place source.blank final ↔ Spans place source final := by
  rw [Spans, scan_blank, Spans]

theorem render_cons (chunk : Chunk) (rest : Source) :
    (Source.render (chunk :: rest)).toList = chunk.render.toList ++ rest.render.toList := by
  rw [Source.render, List.map_cons, String.join_cons, String.toList_append]
  rfl

theorem exists_render_of_beginsCode (h : beginsCode source = true) :
    ∃ c tail, source.render.toList = c :: tail ∧ isQuote c = false := by
  cases source with
  | nil => cases h
  | cons chunk rest =>
    cases chunk with
    | code text =>
      rw [beginsCode, Option.any_eq_true] at h
      obtain ⟨c, hc, hquote⟩ := h
      obtain ⟨tail, htail⟩ := List.head?_eq_some_iff.mp hc
      exact ⟨c, tail ++ (Source.render rest).toList, by rw [render_cons, Chunk.render, htail]; rfl,
        by simpa using hquote⟩
    | doc text => cases h
    | quoted text => cases h

/-- The scan of the text of source ends where that of its chunks does. -/
theorem Spans.after_render (h : Spans place source final) :
    place.after source.render.toList = final := by
  induction source generalizing place with
  | nil => exact Option.some.inj h
  | cons chunk rest ih =>
    rw [render_cons, after_append]
    cases chunk with
    | code text => exact ih h
    | doc text =>
      rw [Spans, scan] at h
      split at h
      · next hplace =>
        rw [Chunk.render, Text.docstring, String.toList_ofList, hplace,
          (staysIn_docstringChars text.toList).after_eq, ← hplace]
        exact ih h
      · cases h
    | quoted text =>
      rw [Spans, scan] at h
      split at h
      · next hplace =>
        obtain ⟨rfl, hbegins⟩ := hplace
        obtain ⟨c, tail, hrest, hc⟩ := exists_render_of_beginsCode hbegins
        have houtside := (after_quotedAsciiChars text.toList).1
        rw [Chunk.render, Text.quotedAscii, String.toList_ofList, hrest,
          after_of_isOutside houtside hc, ← hrest]
        exact ih h
      · cases h

/-- Blanking the literals of the text of source removes the free texts. -/
theorem Spans.blanked_render (h : Spans place source final) :
    place.blanked source.render.toList = place.blanked source.blank.render.toList := by
  induction source generalizing place with
  | nil => rfl
  | cons chunk rest ih =>
    rw [blank, List.map_cons, ← blank, render_cons, render_cons, blanked_append, blanked_append]
    cases chunk with
    | code text =>
      have hrest : Spans (place.after text.toList) rest final := h
      exact congrArg _ (ih hrest)
    | doc text =>
      rw [Spans, scan] at h
      split at h
      · next hplace =>
        have hstays (content : String) :
            (long '"' false 0).StaysIn (Chunk.doc content).render.toList := by
          rw [Chunk.render, Text.docstring, String.toList_ofList]
          exact staysIn_docstringChars content.toList
        subst hplace
        rw [Chunk.blank, (hstays text).blanked_eq, (hstays text).after_eq, (hstays "").blanked_eq,
          (hstays "").after_eq]
        exact congrArg _ (ih h)
      · cases h
    | quoted text =>
      rw [Spans, scan] at h
      split at h
      · next hplace =>
        obtain ⟨rfl, hbegins⟩ := hplace
        have hquoted (content : String) (following : Source)
            (hfollowing : beginsCode following = true) :
            code.blanked (Chunk.quoted content).render.toList ++
              (code.after (Chunk.quoted content).render.toList).blanked following.render.toList =
            ['"', '"'] ++ code.blanked following.render.toList := by
          obtain ⟨c, tail, hrest, hc⟩ := exists_render_of_beginsCode hfollowing
          obtain ⟨houtside, hblanked⟩ := after_quotedAsciiChars content.toList
          rw [Chunk.render, Text.quotedAscii, String.toList_ofList, hblanked, hrest,
            blanked_of_isOutside houtside hc]
        rw [Chunk.blank, hquoted text rest hbegins,
          hquoted "" (blank rest) ((beginsCode_blank rest).trans hbegins), ih h]
      · cases h

/-! ## Whole files -/

/-- Source that is scanned from code to code. -/
def IsWhole (source : Source) : Prop :=
  Spans code source code

instance (source : Source) : Decidable (IsWhole source) :=
  inferInstanceAs (Decidable (Spans code source code))

theorem IsWhole.append (h : IsWhole source) (hrest : IsWhole rest) : IsWhole (source ++ rest) :=
  Spans.append h hrest

theorem isWhole_nil : IsWhole [] :=
  rfl

theorem isWhole_flatMap {α : Type} {members : List α} {f : α → Source}
    (h : ∀ a ∈ members, IsWhole (f a)) : IsWhole (members.flatMap f) := by
  induction members with
  | nil => exact isWhole_nil
  | cons a rest ih =>
    obtain ⟨ha, hrest⟩ := List.forall_mem_cons.mp h
    exact ha.append (ih hrest)

/-- A line that closes its literals leads from code to code. -/
theorem isWhole_line {text : String} (h : IsClosed text) : IsWhole [line text] := by
  have hend : (code.after text.toList).after ['\n'] = code := by
    rw [after_of_isOutside h rfl]
    rfl
  rw [IsWhole, Spans, line, scan, String.toList_append, after_append]
  exact congrArg some hend

theorem isWhole_lines {texts : List String} (h : ∀ text ∈ texts, IsClosed text) :
    IsWhole (lines texts) := by
  have hlines : lines texts = texts.flatMap fun text ↦ [line text] := by
    rw [lines, List.map_eq_flatMap]
  rw [hlines]
  exact isWhole_flatMap fun text htext ↦ isWhole_line (h text htext)

/-- The end of a documentation. -/
theorem spans_docEnd : Spans (long '"' false 0) [line "\"\"\""] code := by
  decide

/-- Lines that begin with the end of a documentation. -/
theorem spans_lines_of_long {texts : List String} (h : ∀ text ∈ texts, IsClosed text) :
    Spans (long '"' false 0) (lines ("\"\"\"" :: texts)) code :=
  spans_docEnd.append (isWhole_lines h)

/-- Lines of which the first ones are the documentation of a module. -/
theorem isWhole_lines_of_take (count : Nat) {texts : List String}
    (hdoc : IsWhole (lines (texts.take count))) (h : ∀ text ∈ texts.drop count, IsClosed text) :
    IsWhole (lines texts) := by
  have hsplit : lines texts = lines (texts.take count) ++ lines (texts.drop count) := by
    rw [lines, lines, lines, ← List.map_append, List.take_append_drop]
  rw [hsplit]
  exact hdoc.append (isWhole_lines h)

theorem isWhole_map_line {α : Type} {members : List α} {f : α → String}
    (h : ∀ a ∈ members, IsClosed (f a)) : IsWhole (members.map fun a ↦ line (f a)) := by
  have hlines : (members.map fun a ↦ line (f a)) = lines (members.map f) := by
    rw [lines, List.map_map]
    rfl
  rw [hlines]
  exact isWhole_lines (List.forall_mem_map.mpr h)

theorem isWhole_code {text : String} (h : IsPlain text) : IsWhole [.code text] :=
  congrArg some h.after_code

/-- A quoted literal may stand before whole source that begins with code. -/
theorem IsWhole.quoted (h : IsWhole source) (hbegins : beginsCode source = true) (text : String) :
    IsWhole (.quoted text :: source) := by
  rw [IsWhole, Spans, scan, if_pos ⟨rfl, hbegins⟩]
  exact h

theorem IsWhole.isClosed_render (h : IsWhole source) : IsClosed source.render := by
  rw [Text.IsClosed, Spans.after_render h]
  rfl

/-- With blanked literals, the text of source is that of its code. -/
theorem IsWhole.blankLiterals_render (h : IsWhole source) :
    Text.blankLiterals source.render = Text.blankLiterals source.blank.render := by
  rw [Text.blankLiterals, Spans.blanked_render h, ← Text.blankLiterals]

end Source

end ApiCompiler.Package
