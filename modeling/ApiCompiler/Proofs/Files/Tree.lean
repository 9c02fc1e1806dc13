import ApiCompiler.Files.Volume
import ApiCompiler.Proofs.Named

/-!
# Laws of trees of files

What stands in a tree after `put` and `remove`. A change at a place below a directory is a change of
the entries of that directory, and a change of one directory leaves everything beside it alone.
-/

namespace ApiCompiler

namespace Files.Tree

variable {tree content : Tree} {place other : List String}

/-! ## Looking up -/

@[simp] theorem find?_nil (tree : Tree) : tree.find? [] = some tree := by
  cases tree <;> rfl

theorem find?_append (tree : Tree) (place rest : List String) :
    tree.find? (place ++ rest) = (tree.find? place).bind fun t ↦ t.find? rest := by
  induction place generalizing tree with
  | nil => simp
  | cons name names ih =>
    cases tree with
    | file content => rfl
    | directory entries =>
      simp only [List.cons_append, find?]
      cases Named.find? entries name with
      | none => rfl
      | some t => exact ih t

/-- What has something below it is a directory. -/
theorem exists_directory_of_find? {name : String} (h : (tree.find? (place ++ [name])).isSome) :
    ∃ entries, tree.find? place = some (directory entries) := by
  rw [find?_append] at h
  cases hplace : tree.find? place with
  | none => simp [hplace] at h
  | some t =>
    cases t with
    | file content => simp [hplace, find?] at h
    | directory entries => exact ⟨entries, rfl⟩

theorem isSome_find?_of_isPrefix (h : place <+: other) (hother : (tree.find? other).isSome) :
    (tree.find? place).isSome := by
  obtain ⟨rest, rfl⟩ := h
  rw [find?_append] at hother
  cases hplace : tree.find? place with
  | none => simp [hplace] at hother
  | some t => rfl

/-- There is a directory at a list of names. -/
def HasDirectory (tree : Tree) (place : List String) : Prop :=
  ∃ entries, tree.find? place = some (directory entries)

/-- What has something below it is a directory. -/
theorem hasDirectory_of_isPrefix (h : place <+: other) (hne : place ≠ other)
    (hother : (tree.find? other).isSome) : tree.HasDirectory place := by
  obtain ⟨_ | ⟨name, rest⟩, rfl⟩ := h
  · simp at hne
  · rw [List.append_cons, find?_append] at hother
    exact exists_directory_of_find? (Option.isSome_of_isSome_bind hother)

/-! ## Setting -/

theorem put_append (tree : Tree) (place rest : List String) (content : Tree) :
    tree.put (place ++ rest) content =
      tree.put place (((tree.find? place).getD empty).put rest content) := by
  induction place generalizing tree with
  | nil => simp [put]
  | cons name names ih =>
    cases tree with
    | file c => rfl
    | directory entries =>
      simp only [List.cons_append, put, find?, ih]
      cases hfound : Named.find? entries name with
      | some t => simp
      | none =>
        cases names with
        | nil => simp
        | cons next names => simp [find?, empty, Named.find?]

theorem put_put (tree : Tree) (place : List String) (a b : Tree) :
    (tree.put place a).put place b = tree.put place b := by
  induction place generalizing tree with
  | nil => rfl
  | cons name names ih =>
    cases tree with
    | file c => rfl
    | directory entries => simp [put, Named.put_put, Named.find?_put, ih]

theorem put_of_find? (h : tree.find? place = some content) : tree.put place content = tree := by
  induction place generalizing tree with
  | nil =>
    rw [find?_nil, Option.some.injEq] at h
    exact h.symm
  | cons name names ih =>
    cases tree with
    | file c => rfl
    | directory entries =>
      rw [find?] at h
      cases hfound : Named.find? entries name with
      | none => simp [hfound] at h
      | some t =>
        rw [hfound] at h
        simp [put, hfound, ih h, Named.put_of_find? hfound]

theorem find?_put_self (h : (tree.find? place).isSome) (content : Tree) :
    (tree.put place content).find? place = some content := by
  induction place generalizing tree with
  | nil => simp [put]
  | cons name names ih =>
    cases tree with
    | file c => simp [find?] at h
    | directory entries =>
      simp only [find?] at h
      cases hfound : Named.find? entries name with
      | none => simp [hfound] at h
      | some t =>
        rw [hfound] at h
        simp [put, find?, hfound, Named.find?_put, ih h]

theorem find?_put_empty (place : List String) (content : Tree) :
    (empty.put place content).find? place = some content := by
  induction place with
  | nil => rfl
  | cons name names ih =>
    rw [empty, put, find?, Named.find?_put, if_pos rfl]
    exact ih

/-- What is set at a place stands there unless a file is in the way. -/
theorem find?_put_self_of_forall (content : Tree)
    (h : ∀ above, above <+: place → above ≠ place → ∀ c, tree.find? above ≠ some (file c)) :
    (tree.put place content).find? place = some content := by
  induction place generalizing tree with
  | nil => simp [put]
  | cons name names ih =>
    cases tree with
    | file c => exact absurd (find?_nil _) (h [] List.nil_prefix (List.cons_ne_nil _ _).symm c)
    | directory entries =>
      rw [put, find?, Named.find?_put, if_pos rfl, Option.bind_some]
      cases hfound : Named.find? entries name with
      | none => exact find?_put_empty names content
      | some t =>
        refine ih fun above habove hne c hfile ↦ ?_
        refine h (name :: above) (List.cons_prefix_cons.mpr ⟨rfl, habove⟩) (by simpa using hne) c ?_
        rw [find?, hfound, Option.bind_some, Option.getD_some] at *
        exact hfile

/-- Setting what stands at a place leaves what stands elsewhere alone. -/
theorem find?_put_of_disjoint (tree : Tree) (content : Tree) (h : ¬ place <+: other)
    (h' : ¬ other <+: place) : (tree.put place content).find? other = tree.find? other := by
  induction place generalizing tree other with
  | nil => exact absurd (List.nil_prefix) h
  | cons name names ih =>
    cases other with
    | nil => exact absurd (List.nil_prefix) h'
    | cons next rest =>
      cases tree with
      | file c => rfl
      | directory entries =>
        rw [put, find?, find?, Named.find?_put]
        by_cases heq : next = name
        · subst heq
          rw [List.cons_prefix_cons, not_and] at h h'
          rw [if_pos rfl, Option.bind_some, ih _ (h rfl) (h' rfl)]
          cases hfound : Named.find? entries next with
          | some t => rfl
          | none =>
            cases rest with
            | nil => exact absurd (List.nil_prefix) (h' rfl)
            | cons => rfl
        · rw [if_neg heq]

/-- What is set at a place stands there, unless a file is in the way; then nothing changes. -/
theorem find?_put_self_or (tree : Tree) (place : List String) (content : Tree) :
    (tree.put place content).find? place = some content ∨ tree.put place content = tree := by
  induction place generalizing tree with
  | nil => exact .inl rfl
  | cons name names ih =>
    cases tree with
    | file c => exact .inr rfl
    | directory entries =>
      cases hfound : Named.find? entries name with
      | none =>
        have hset := find?_put_empty names content
        simp [put, find?, hfound, Named.find?_put, hset]
      | some t =>
        rcases ih t with hset | hblocked
        · simp [put, find?, hfound, Named.find?_put, hset]
        · simp [put, hfound, hblocked, Named.put_of_find? hfound]

/-- Where nothing stands, an empty directory need not be made before something is set inside it. -/
theorem put_empty_put (h : tree.find? place = none) (rest : List String) (content : Tree) :
    (tree.put place empty).put (place ++ rest) content = tree.put (place ++ rest) content := by
  have hmade : ((tree.put place empty).find? place).getD empty = empty := by
    rcases find?_put_self_or tree place empty with hset | hblocked
    · rw [hset, Option.getD_some]
    · rw [hblocked, h, Option.getD_none]
  rw [put_append, put_append, hmade, h, put_put, Option.getD_none]

/-- An empty directory that is made where nothing stood is seen only on the way to it. -/
theorem find?_put_empty_of_not_isPrefix (h : tree.find? place = none)
    (hother : ¬ other <+: place) : (tree.put place empty).find? other = tree.find? other := by
  by_cases hbelow : place <+: other
  · obtain ⟨rest, rfl⟩ := hbelow
    rcases find?_put_self_or tree place empty with hset | hblocked
    · cases rest with
      | nil => exact absurd (by simp) hother
      | cons name names => rw [find?_append, find?_append, hset, h]; rfl
    · rw [hblocked]
  · exact find?_put_of_disjoint tree empty hbelow hother

/-! ## The entries of a directory -/

variable {entries : List (String × Tree)}

/-- A directory in which something is set stays a directory. -/
theorem exists_directory_put (entries : List (String × Tree)) {rest : List String}
    (h : rest ≠ []) (content : Tree) :
    ∃ filled, (directory entries).put rest content = directory filled := by
  obtain ⟨name, names, rfl⟩ := List.exists_cons_of_ne_nil h
  exact ⟨_, rfl⟩

@[simp] theorem find?_directory_singleton (entries : List (String × Tree)) (name : String) :
    (directory entries).find? [name] = Named.find? entries name := by
  simp [find?]

theorem find?_child (h : tree.find? place = some (directory entries)) (name : String) :
    tree.find? (place ++ [name]) = Named.find? entries name := by
  rw [find?_append, h, Option.bind_some, find?_directory_singleton]

theorem put_child (h : tree.find? place = some (directory entries)) (name : String)
    (content : Tree) : tree.put (place ++ [name]) content =
      tree.put place (directory (Named.put entries name content)) := by
  rw [put_append, h, Option.getD_some]
  simp [put]

theorem remove_child (h : tree.find? place = some (directory entries)) (name : String) :
    tree.remove (place ++ [name]) =
      tree.put place (directory (Named.without entries name)) := by
  induction place generalizing tree with
  | nil =>
    obtain rfl : tree = directory entries := by simpa using h
    simp [remove, put, Named.without]
  | cons first names ih =>
    cases tree with
    | file c => simp [find?] at h
    | directory others =>
      rw [find?] at h
      cases hfound : Named.find? others first with
      | none => simp [hfound] at h
      | some t =>
        rw [hfound, Option.bind_some] at h
        simp [remove, put, hfound, ih h]

end Files.Tree

end ApiCompiler
