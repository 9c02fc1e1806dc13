import ApiCompiler.Package.Install
import ApiCompiler.Proofs.Files.Disk

/-!
# What an installation leaves

Everything that an installation does after it has made the directory of the output happens among the
entries of that directory. As long as files are written, only the entry in which the package is
staged changes, so that removing this entry undoes everything. The two renamings at the end need
nothing that the first of them could take away; where the first one fails, nothing has been moved.
-/

namespace ApiCompiler

open Files (Disk Path Tree Volume)

/-! ## Files below a directory -/

/-- Directories that are made below a directory change its content only, and in a way that does not
show once something is set behind them. -/
theorem Files.Volume.Made.exists_fill {volume after : Volume} {place way : List String}
    {entries : Named Tree} (h : volume.Made (place ++ way) after)
    (hplace : volume.tree.find? place = some (.directory entries)) :
    ∃ filled, after = volume.fill place filled ∧ ∀ names content, way <+: names →
      (Tree.directory filled).put names content = (Tree.directory entries).put names content := by
  induction h with
  | refl => exact ⟨entries, (Volume.fill_of_find? hplace).symm, fun _ _ _ ↦ rfl⟩
  | @step after made _ hmade hnew ih =>
    obtain ⟨filled, rfl, hfilled⟩ := ih
    have hfound := Volume.find?_fill hplace filled
    obtain ⟨rest, rfl⟩ : place <+: made := by
      refine (List.prefix_or_prefix_of_prefix hmade (List.prefix_append place way)).resolve_left ?_
      intro habove
      have hsome := Tree.isSome_find?_of_isPrefix habove (Option.isSome_of_mem hfound)
      simp [hnew] at hsome
    have hrest : rest <+: way := (List.prefix_append_right_inj place).mp hmade
    rw [Tree.find?_append, hfound, Option.bind_some] at hnew
    have hne : rest ≠ [] := by
      rintro rfl
      simp at hnew
    obtain ⟨next, hnext, hafter⟩ := Volume.exists_edit_put_below hfound hne .empty
    refine ⟨next, by rw [hafter, Volume.fill_fill], fun names content hnames ↦ ?_⟩
    obtain ⟨behind, rfl⟩ := hrest.trans hnames
    rw [← hnext, Tree.put_empty_put hnew, hfilled _ _ hnames]

namespace Package

/-- The path of a file of a package: relative, of ordinary names. -/
structure IsInside (path : Path) : Prop where
  isOrdinary : path.IsOrdinary
  root_eq : path.root = ""

/-- The content of a directory after a file was written in it. -/
def withFile (tree : Tree) (file : String × String) : Tree :=
  tree.put (Path.ofText file.1).names (.file (.text file.2))

/-- The directory of the files of a package. -/
def treeOf (files : Named String) : Tree :=
  files.foldl withFile .empty

section Writing

variable {volume : Volume} {directory : Path} {place : List String} {entries : Named Tree}

/-- Writing a file changes the content of its directory only, and sets the file if it succeeds. -/
theorem runOn_writeFile {file : String × String} (hfile : IsInside (.ofText file.1))
    (hleads : ∀ others, (volume.fill place others).Leads directory place)
    (h : volume.tree.find? place = some (.directory entries)) :
    ∃ outcome filled, (writeFile directory file).runOn volume =
        (outcome, volume.fill place filled) ∧
      (outcome = .ok () → Tree.directory filled = withFile (.directory entries) file) := by
  let other := Path.ofText file.1
  have hparent : (directory.append other).parent = directory.append other.parent := by
    simp [Path.append, Path.parent, other, hfile.root_eq,
      List.dropLast_append_of_ne_nil hfile.isOrdinary.names_ne_nil]
  have hstart : volume.Leads directory place := Volume.fill_of_find? h ▸ hleads entries
  have hroot : other.parent.root = "" := hfile.root_eq
  have hmade := Disk.made_makeDirectoriesFrom hstart hroot hfile.isOrdinary.parent_not_back
    (directory.append other.parent).names.length
  rw [← Disk.makeDirectories, ← hparent] at hmade
  rw [writeFile, Disk.runOn_bind]
  rcases hrun : (Disk.makeDirectories (directory.append other).parent).runOn volume with
    ⟨failure | _, after⟩
  · rw [hrun] at hmade
    obtain ⟨filled, hafter, -⟩ := hmade.exists_fill h
    exact ⟨.error failure, filled, by rw [← hafter], by rintro ⟨⟩⟩
  · rw [hrun] at hmade
    obtain ⟨filled, rfl, hfilled⟩ := hmade.exists_fill h
    have hset (content : Files.Content) : ∃ final,
        (Tree.directory filled).put other.names (.file content) = .directory final ∧
          (volume.fill place filled).edit (·.put (place ++ other.names) (.file content)) =
            volume.fill place final := by
      obtain ⟨final, hfinal, hedit⟩ := Volume.exists_edit_put_below (Volume.find?_fill h filled)
        hfile.isOrdinary.names_ne_nil (.file content)
      exact ⟨final, hfinal, by rw [hedit, Volume.fill_fill]⟩
    simp only
    rcases Disk.runOn_write (directory.append other) file.2 (volume.fill place filled) with
      ⟨failure, hwrite⟩ | ⟨found, hlocate, hwrite⟩
    · exact ⟨.error failure, filled, hwrite, by rintro ⟨⟩⟩
    · obtain rfl := (hleads filled).eq_of_append hfile.root_eq hfile.isOrdinary.not_back
        (.of_locate hlocate)
      rcases hwrite with ⟨failure, content, hwrite⟩ | hwrite
      · obtain ⟨final, -, hedit⟩ := hset content
        exact ⟨.error failure, final, by rw [hwrite, hedit], by rintro ⟨⟩⟩
      · obtain ⟨final, hfinal, hedit⟩ := hset (.text file.2)
        refine ⟨.ok (), final, by rw [hwrite, hedit], fun _ ↦ ?_⟩
        rw [← hfinal, hfilled _ _ (List.dropLast_prefix _)]
        rfl

theorem runOn_writeFiles {files : Named String} (hfiles : ∀ file ∈ files, IsInside (.ofText file.1))
    (hleads : ∀ others, (volume.fill place others).Leads directory place)
    (h : volume.tree.find? place = some (.directory entries)) :
    ∃ outcome filled, (files.forM (writeFile directory)).runOn volume =
        (outcome, volume.fill place filled) ∧
      (outcome = .ok () → Tree.directory filled = files.foldl withFile (.directory entries)) := by
  induction files generalizing volume entries with
  | nil =>
    refine ⟨.ok (), entries, ?_, fun _ ↦ rfl⟩
    rw [Volume.fill_of_find? h]
    rfl
  | cons file rest ih =>
    obtain ⟨outcome, filled, hrun, hwritten⟩ :=
      runOn_writeFile (hfiles file (List.mem_cons_self ..)) hleads h
    have hbind : (file :: rest).forM (writeFile directory) =
      (do writeFile directory file; rest.forM (writeFile directory)) := rfl
    rw [hbind, Disk.runOn_bind, hrun]
    cases outcome with
    | error failure => exact ⟨.error failure, filled, rfl, fun hok ↦ (nomatch hok)⟩
    | ok _ =>
      have hleadsAfter (others : Named Tree) :
          ((volume.fill place filled).fill place others).Leads directory place := by
        rw [Volume.fill_fill]
        exact hleads others
      obtain ⟨final, last, hrest, hlast⟩ := ih
        (fun other hother ↦ hfiles other (List.mem_cons_of_mem _ hother)) hleadsAfter
        (Volume.find?_fill h filled)
      refine ⟨final, last, ?_, fun hok ↦ ?_⟩
      · rw [Volume.fill_fill] at hrest
        exact hrest
      · rw [hlast hok, hwritten rfl]
        rfl

end Writing

section Replacing

/-- The name under which a package is staged. -/
def stagingName (output : Path) (mark : String) : String :=
  "." ++ output.name ++ "-" ++ mark

/-- The name under which a former output is kept. -/
def backupName (output : Path) (mark : String) : String :=
  "." ++ output.name ++ "-" ++ mark ++ ".old"

variable {output : Path} {mark : String}

theorem length_stagingName :
    (stagingName output mark).length = output.name.length + mark.length + 2 := by
  have hdot : ".".length = 1 := rfl
  have hdash : "-".length = 1 := rfl
  simp only [stagingName, String.length_append, hdot, hdash]
  omega

theorem length_backupName :
    (backupName output mark).length = (stagingName output mark).length + 4 := by
  have hold : ".old".length = 4 := rfl
  simp only [backupName, stagingName, String.length_append, hold]

theorem stagingName_ne_name : stagingName output mark ≠ output.name := by
  intro h
  have hlength := congrArg String.length h
  rw [length_stagingName] at hlength
  omega

theorem backupName_ne_name : backupName output mark ≠ output.name := by
  intro h
  have hlength := congrArg String.length h
  rw [length_backupName, length_stagingName] at hlength
  omega

theorem backupName_ne_stagingName : backupName output mark ≠ stagingName output mark := by
  intro h
  have hlength := congrArg String.length h
  rw [length_backupName] at hlength
  omega

theorem stagingName_ne_back : stagingName output mark ≠ ".." := by
  intro h
  have hdash : '-' ∈ (stagingName output mark).toList := by simp [stagingName]
  rw [h] at hdash
  simp at hdash

theorem backupName_ne_back : backupName output mark ≠ ".." := by
  intro h
  have hdash : '-' ∈ (backupName output mark).toList := by simp [backupName]
  rw [h] at hdash
  simp at hdash

variable {volume : Volume} {entries : Named Tree}

/-- A volume with a former output, whose disk is full after the first character of a second file. -/
def crowdedVolume : Volume where
  tree := .directory [("work", .directory [("pkg", .file (.text "former"))])]
  working := ["work"]
  system := {
    refusal? := fun access _ place ↦
      if access = .writeFile ∧ place.getLast? = some "b.py" then
        some ⟨28, "No space left on device", by decide⟩
      else none
    remains := fun _ _ text ↦ .text (String.ofList (text.toList.take 1)) }

example : (install [("a.py", "first"), ("b.py", "second")] ⟨"", ["pkg"]⟩ "m").runOn crowdedVolume =
    (.error (.file ⟨.refused ⟨28, "No space left on device", by decide⟩, none⟩), crowdedVolume) :=
  rfl

end Replacing

end Package

end ApiCompiler
