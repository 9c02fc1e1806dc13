import ApiCompiler.Files.Volume
import ApiCompiler.Proofs.Files.Tree
import Mathlib.Data.List.Induction

/-!
# Places of paths

A path without steps back leads to the place of its names, provided that they fit and that the place
lies in a directory. What stands at such a path therefore depends on the tree at that place only.
-/

namespace ApiCompiler.Files

/-- A path of ordinary names: there is one, and none of them is a step back. -/
structure Path.IsOrdinary (path : Path) : Prop where
  names_ne_nil : path.names ≠ []
  not_back : ".." ∉ path.names

theorem Path.child_parent_name {path : Path} (h : path.names ≠ []) :
    path.parent.child path.name = path := by
  have hnames : path.names.dropLast ++ [path.name] = path.names := by
    rw [Path.name, List.getLast?_eq_some_getLast h]
    exact List.dropLast_append_getLast h
  unfold Path.parent Path.child
  rw [hnames]

namespace Path.IsOrdinary

variable {path : Path}

theorem parent_not_back (h : path.IsOrdinary) : ".." ∉ path.parent.names :=
  fun hmem ↦ h.not_back (List.dropLast_subset _ hmem)

end Path.IsOrdinary

@[simp] theorem Path.name_child (path : Path) (name : String) : (path.child name).name = name := by
  simp [Path.name, Path.child]

/-- Whether a name is short enough for a file. -/
def nameFits (name : String) : Bool :=
  Text.nameSize name ≤ maxNameSize

namespace Tree

variable {tree : Tree} {place found names : List String}

/-- What stands in a tree below a place is in a directory. -/
theorem eq_nil_or_exists_directory {content : Tree}
    (h : tree.find? (place ++ names) = some content) :
    names = [] ∨ ∃ entries, tree.find? (place ++ names.dropLast) = some (directory entries) := by
  cases names using List.reverseRecOn with
  | nil => exact .inl rfl
  | append_singleton names name =>
    rw [← List.append_assoc] at h
    rw [List.dropLast_concat]
    exact .inr (exists_directory_of_find? (Option.isSome_of_mem h))

theorem follow_append (tree : Tree) (place names rest : List String) :
    tree.follow place (names ++ rest) =
      (tree.follow place names).bind fun found ↦ tree.follow found rest := by
  induction names generalizing place with
  | nil => rfl
  | cons name names ih =>
    rw [List.cons_append, follow, follow]
    split
    · rfl
    · rfl
    · split
      · exact ih _
      · split
        · rfl
        · exact ih _

theorem follow_cons_eq_ok_iff {name : String} :
    tree.follow place (name :: names) = .ok found ↔ tree.HasDirectory place ∧
      ((name = ".." ∧ tree.follow place.dropLast names = .ok found) ∨
        (name ≠ ".." ∧ nameFits name = true ∧
          tree.follow (place ++ [name]) names = .ok found)) := by
  rw [follow, HasDirectory]
  cases tree.find? place with
  | none => simp
  | some t =>
    cases t with
    | file content => simp
    | directory entries =>
      by_cases hback : name = ".."
      · simp [hback]
      · by_cases hfits : maxNameSize < Text.nameSize name
        · simp [hback, hfits, nameFits, Nat.not_le_of_lt hfits]
        · simp [hback, hfits, nameFits, Nat.le_of_not_lt hfits]

/-- Names lead to the same place in every tree in which they can be followed. -/
theorem follow_unique {other : Tree} {last : List String} (h : tree.follow place names = .ok found)
    (hother : other.follow place names = .ok last) : last = found := by
  induction names generalizing place with
  | nil =>
    rw [follow, Except.ok.injEq] at h hother
    exact hother.symm.trans h
  | cons name names ih =>
    rw [follow_cons_eq_ok_iff] at h hother
    rcases h.2 with ⟨hback, hrest⟩ | ⟨hname, -, hrest⟩
    · rcases hother.2 with ⟨-, hlast⟩ | ⟨hname, -⟩
      · exact ih hrest hlast
      · exact absurd hback hname
    · rcases hother.2 with ⟨hback, -⟩ | ⟨-, -, hlast⟩
      · exact absurd hback hname
      · exact ih hrest hlast

/-- Names that can be followed in two trees can be followed in one that has every directory which
both of them have. -/
theorem follow_eq_ok_of_hasDirectory {other final : Tree} {last : List String}
    (hkept : ∀ place, tree.HasDirectory place → other.HasDirectory place → final.HasDirectory place)
    (h : tree.follow place names = .ok found) (hother : other.follow place names = .ok last) :
    final.follow place names = .ok found := by
  induction names generalizing place with
  | nil => exact h
  | cons name names ih =>
    rw [follow_cons_eq_ok_iff] at h hother ⊢
    refine ⟨hkept place h.1 hother.1, ?_⟩
    rcases h.2 with ⟨hback, hrest⟩ | ⟨hname, hfits, hrest⟩
    · rcases hother.2 with ⟨-, hlast⟩ | ⟨hname, -⟩
      · exact .inl ⟨hback, ih hrest hlast⟩
      · exact absurd hback hname
    · rcases hother.2 with ⟨hback, -⟩ | ⟨-, -, hlast⟩
      · exact absurd hback hname
      · exact .inr ⟨hname, hfits, ih hrest hlast⟩

theorem follow_singleton_eq_ok_iff {name : String} (h : name ≠ "..") :
    tree.follow place [name] = .ok found ↔ found = place ++ [name] ∧ nameFits name = true ∧
      tree.HasDirectory place := by
  rw [follow_cons_eq_ok_iff]
  simp only [follow, Except.ok.injEq, @eq_comm _ _ found]
  tauto

/-- Following names without steps back succeeds when they fit and the last one is in a directory. -/
theorem follow_eq_ok_iff (h : ".." ∉ names) :
    tree.follow place names = .ok found ↔ found = place ++ names ∧ names.all nameFits = true ∧
      (names = [] ∨
        ∃ entries, tree.find? (place ++ names.dropLast) = some (directory entries)) := by
  induction names using List.reverseRecOn generalizing found with
  | nil => simp [follow, eq_comm]
  | append_singleton names name ih =>
    rw [List.mem_append, not_or, List.mem_singleton] at h
    have hname : tree.follow (place ++ names) [name] = .ok found ↔ _ :=
      follow_singleton_eq_ok_iff (Ne.symm h.2)
    rw [follow_append, List.dropLast_concat, List.all_append, Bool.and_eq_true]
    cases hnames : tree.follow place names with
    | error kind =>
      refine ⟨fun hok ↦ (nomatch hok), fun ⟨_, ⟨hfits, _⟩, hdirectory⟩ ↦ ?_⟩
      obtain ⟨entries, hentries⟩ := hdirectory.resolve_left (by simp)
      rw [(ih h.1).mpr ⟨rfl, hfits, eq_nil_or_exists_directory hentries⟩] at hnames
      cases hnames
    | ok between =>
      obtain ⟨rfl, hfits, -⟩ := (ih h.1).mp hnames
      rw [Except.bind, hname]
      simp [hfits, List.append_assoc, HasDirectory]

end Tree

namespace Volume

/-- The place of a path without steps back. -/
def placeOf (volume : Volume) (path : Path) : List String :=
  volume.start path ++ path.names

variable {volume : Volume} {path : Path} {place : List String}

/-- The volume with other entries in the directory at a place. -/
def fill (volume : Volume) (place : List String) (entries : Named Tree) : Volume :=
  volume.edit (·.put place (.directory entries))

variable {entries others : Named Tree} {name : String}

theorem fill_fill (volume : Volume) (place : List String) (entries others : Named Tree) :
    (volume.fill place entries).fill place others = volume.fill place others := by
  simp [fill, edit, Tree.put_put]

theorem fill_of_find? (h : volume.tree.find? place = some (.directory entries)) :
    volume.fill place entries = volume := by
  simp [fill, edit, Tree.put_of_find? h]

theorem find?_fill (h : volume.tree.find? place = some (.directory entries))
    (others : Named Tree) :
    (volume.fill place others).tree.find? place = some (.directory others) :=
  Tree.find?_put_self (Option.isSome_of_mem h) _

/-- What is in a directory under an unchanged entry, or elsewhere, is as it was. -/
theorem find?_fill_of_forall {other : List String}
    (h : volume.tree.find? place = some (.directory entries)) (hother : ¬ other <+: place)
    (hkept : ∀ name, place ++ [name] <+: other →
      Named.find? others name = Named.find? entries name) :
    (volume.fill place others).tree.find? other = volume.tree.find? other := by
  by_cases hbelow : place <+: other
  · obtain ⟨rest, rfl⟩ := hbelow
    cases rest with
    | nil => simp at hother
    | cons name rest =>
      have hname : place ++ [name] <+: place ++ name :: rest := by
        rw [List.prefix_append_right_inj]
        simp
      rw [Tree.find?_append, Tree.find?_append, find?_fill h, h, Option.bind_some,
        Option.bind_some, Tree.find?, Tree.find?, hkept name hname]
  · exact Tree.find?_put_of_disjoint _ _ hbelow hother

/-- What is set below a directory is set in its entries. -/
theorem exists_edit_put_below (h : volume.tree.find? place = some (.directory entries))
    {rest : List String} (hrest : rest ≠ []) (content : Tree) :
    ∃ filled, (Tree.directory entries).put rest content = .directory filled ∧
      volume.edit (·.put (place ++ rest) content) = volume.fill place filled := by
  obtain ⟨filled, hfilled⟩ := Tree.exists_directory_put entries hrest content
  refine ⟨filled, hfilled, ?_⟩
  simp [fill, edit, Tree.put_append, h, hfilled]

theorem edit_put_child (h : volume.tree.find? place = some (.directory entries))
    (name : String) (content : Tree) :
    volume.edit (·.put (place ++ [name]) content) =
      volume.fill place (Named.put entries name content) := by
  simp [fill, edit, Tree.put_child h]

theorem edit_remove_child (h : volume.tree.find? place = some (.directory entries))
    (name : String) :
    volume.edit (·.remove (place ++ [name])) = volume.fill place (Named.without entries name) := by
  simp [fill, edit, Tree.remove_child h]

/-- A move inside a directory. -/
theorem edit_move_child (h : volume.tree.find? place = some (.directory entries))
    (name target : String) (content : Tree) :
    volume.edit (fun tree ↦ (tree.remove (place ++ [name])).put (place ++ [target]) content) =
      volume.fill place (Named.put (Named.without entries name) target content) := by
  have hremoved := edit_remove_child h name
  have hmoved := edit_put_child (find?_fill h (Named.without entries name)) target content
  rw [← hremoved, hremoved, fill_fill] at hmoved
  rw [← hmoved, ← hremoved]
  rfl

/-- The names of a path lead to a place. -/
def Leads (volume : Volume) (path : Path) (place : List String) : Prop :=
  volume.tree.follow (volume.start path) path.names = .ok place

/-- A name in the directory of a path is found when the path leads there and everything fits. -/
theorem locate_child_eq_ok_iff {found : List String} (hname : name ≠ "..") :
    volume.locate (path.child name) = .ok found ↔
      (Text.nameSize (path.child name).text ≤ maxPathSize ∧ nameFits name = true) ∧
        ∃ place, found = place ++ [name] ∧ volume.Leads path place ∧
          volume.tree.HasDirectory place := by
  have hfollow : volume.tree.follow (volume.start (path.child name)) (path.child name).names =
      (volume.tree.follow (volume.start path) path.names).bind fun place ↦
        volume.tree.follow place [name] :=
    Tree.follow_append ..
  rw [locate, hfollow]
  unfold Leads
  split
  · next hlong => simp [Nat.not_le_of_lt hlong]
  · next hshort =>
    cases volume.tree.follow (volume.start path) path.names with
    | error kind => simp [Except.bind]
    | ok place =>
      simp only [Except.bind, Tree.follow_singleton_eq_ok_iff hname, Nat.le_of_not_lt hshort,
        true_and, Except.ok.injEq]
      constructor
      · rintro ⟨rfl, hfits, hdirectory⟩
        exact ⟨hfits, place, rfl, rfl, hdirectory⟩
      · rintro ⟨hfits, _, rfl, rfl, hdirectory⟩
        exact ⟨rfl, hfits, hdirectory⟩

theorem Leads.child (h : volume.Leads path place) (hname : name ≠ "..")
    (hfits : nameFits name = true) (hplace : volume.tree.HasDirectory place) :
    volume.Leads (path.child name) (place ++ [name]) := by
  have hstep := (Tree.follow_singleton_eq_ok_iff hname).mpr ⟨rfl, hfits, hplace⟩
  unfold Leads at h
  calc volume.tree.follow (volume.start path) (path.names ++ [name])
      = (volume.tree.follow (volume.start path) path.names).bind fun found ↦
          volume.tree.follow found [name] := Tree.follow_append ..
    _ = .ok (place ++ [name]) := by rw [h, Except.bind, hstep]

theorem Leads.of_locate {found : List String} (h : volume.locate path = .ok found) :
    volume.Leads path found := by
  rw [locate] at h
  split at h
  · cases h
  · exact h

/-- Where a path leads, something may be missing at the end only. -/
theorem Leads.locate_ne (h : volume.Leads path place) : volume.locate path ≠ .error .noEntry := by
  rw [locate]
  split
  · simp
  · rw [h]
    simp

/-- Names without steps back lead on from a place to the names below it. -/
theorem Leads.eq_of_append {directory other : Path} {found : List String}
    (h : volume.Leads directory place) (hroot : other.root = "") (hback : ".." ∉ other.names)
    (hfound : volume.Leads (directory.append other) found) : found = place ++ other.names := by
  have happend : directory.append other = ⟨directory.root, directory.names ++ other.names⟩ := by
    simp [Path.append, hroot]
  have hfollow : volume.tree.follow (volume.start directory) (directory.names ++ other.names) =
      .ok found := by
    rw [happend] at hfound
    exact hfound
  unfold Leads at h
  rw [Tree.follow_append, h, Except.bind, Tree.follow_eq_ok_iff hback] at hfollow
  exact hfollow.1

/-- A directory stays where the entries on the way to it do. -/
theorem hasDirectory_fill {other : List String}
    (h : volume.tree.find? place = some (.directory entries))
    (hother : volume.tree.HasDirectory other)
    (hkept : ∀ name, place ++ [name] <+: other →
      Named.find? others name = Named.find? entries name) :
    (volume.fill place others).tree.HasDirectory other := by
  have hplace := find?_fill h others
  by_cases habove : other <+: place
  · by_cases heq : other = place
    · rw [heq]
      exact ⟨others, hplace⟩
    · exact Tree.hasDirectory_of_isPrefix habove heq (Option.isSome_of_mem hplace)
  · obtain ⟨content, hcontent⟩ := hother
    exact ⟨content, by rw [find?_fill_of_forall h habove hkept, hcontent]⟩

/-- A path leads where it does as long as the entries of a directory stay that are there both in the
beginning and later. -/
theorem Leads.fill {latest : Named Tree} {found last : List String}
    (hplace : volume.tree.find? place = some (.directory entries)) (h : volume.Leads path found)
    (hother : (volume.fill place others).Leads path last)
    (hkept : ∀ name, (Named.find? entries name).isSome → (Named.find? others name).isSome →
      Named.find? latest name = Named.find? others name) :
    (volume.fill place latest).Leads path found := by
  refine Tree.follow_eq_ok_of_hasDirectory (fun way hway hwayOther ↦ ?_) h hother
  have hfilled := find?_fill hplace others
  rw [← fill_fill volume place others latest]
  refine hasDirectory_fill hfilled hwayOther fun name hname ↦ ?_
  obtain ⟨content, hcontent⟩ := hway
  obtain ⟨later, hlater⟩ := hwayOther
  have hbefore := Tree.isSome_find?_of_isPrefix hname (Option.isSome_of_mem hcontent)
  have hsince := Tree.isSome_find?_of_isPrefix hname (Option.isSome_of_mem hlater)
  rw [Tree.find?_child hplace] at hbefore
  rw [Tree.find?_child hfilled] at hsince
  exact hkept name hbefore hsince

end Volume

end ApiCompiler.Files
