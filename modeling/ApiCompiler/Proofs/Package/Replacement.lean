import ApiCompiler.Proofs.Package.Install

/-!
# What a successful installation leaves

An installation that succeeds leaves at the output a directory with exactly the files of the package
and the directories on the way to them. Nothing else in the directory of the output changes, unless
a file stood at the output: the former output is moved away before the package takes its place, and
only a directory is removed afterwards.
-/

namespace ApiCompiler.Package

open Files (Disk Path Tree Volume nameFits maxPathSize)

/-! ## The files of a package -/

/-- The names of the path of a file. -/
def namesOf (file : String × String) : List String :=
  (Path.ofText file.1).names

/-- Neither of two files stands on the way to the other one. -/
def Apart (file other : String × String) : Prop :=
  ¬ namesOf file <+: namesOf other ∧ ¬ namesOf other <+: namesOf file

/-- A tree is a directory with exactly some files, and with the directories on the way to them. -/
structure Holds (tree : Tree) (files : Named String) : Prop where
  find?_eq_file_iff : ∀ names content, tree.find? names = some (.file content) ↔
    ∃ file ∈ files, namesOf file = names ∧ content = .text file.2
  hasDirectory_iff : ∀ names, tree.HasDirectory names ↔
    names = [] ∨ ∃ file ∈ files, names <+: namesOf file ∧ names ≠ namesOf file

section Files

variable {tree : Tree} {files : Named String} {file : String × String} {names : List String}

theorem holds_empty : Holds .empty [] where
  find?_eq_file_iff names content := by
    cases names <;> simp [Tree.empty, Tree.find?, Named.find?]
  hasDirectory_iff names := by
    cases names <;> simp [Tree.HasDirectory, Tree.empty, Tree.find?, Named.find?]

namespace Holds

variable (h : Holds tree files) (hapart : ∀ other ∈ files, Apart other file)
include h hapart

/-- A file that stands apart from others can be set. -/
theorem find?_withFile_self :
    (withFile tree file).find? (namesOf file) = some (.file (.text file.2)) := by
  refine Tree.find?_put_self_of_forall _ fun above habove _ content hcontent ↦ ?_
  obtain ⟨other, hother, rfl, -⟩ := (h.find?_eq_file_iff above content).mp hcontent
  exact (hapart other hother).1 habove

theorem hasDirectory_withFile_of_isPrefix (habove : names <+: namesOf file)
    (hne : names ≠ namesOf file) : (withFile tree file).HasDirectory names :=
  Tree.hasDirectory_of_isPrefix habove hne
    (Option.isSome_of_mem (h.find?_withFile_self hapart))

theorem find?_withFile_of_below (hbelow : namesOf file <+: names) (hne : names ≠ namesOf file) :
    (withFile tree file).find? names = none := by
  obtain ⟨_ | ⟨name, rest⟩, rfl⟩ := hbelow
  · simp at hne
  · rw [Tree.find?_append, h.find?_withFile_self hapart]
    rfl

omit h hapart in
theorem find?_withFile_of_disjoint (hbelow : ¬ namesOf file <+: names)
    (habove : ¬ names <+: namesOf file) : (withFile tree file).find? names = tree.find? names :=
  Tree.find?_put_of_disjoint tree _ hbelow habove

/-- Setting a file that stands apart from the others adds it to them. -/
theorem withFile (hfile : namesOf file ≠ []) : Holds (withFile tree file) (files ++ [file]) where
  find?_eq_file_iff names content := by
    simp only [List.mem_append, List.mem_singleton, or_and_right, exists_or, exists_eq_left]
    by_cases hself : names = namesOf file
    · have hothers : ¬ ∃ other ∈ files, namesOf other = names ∧ content = .text other.2 := by
        rintro ⟨other, hother, heq, -⟩
        exact (hapart other hother).1 (heq.trans hself ▸ List.prefix_refl _)
      rw [hself, h.find?_withFile_self hapart, or_iff_right (hself ▸ hothers)]
      simp [eq_comm]
    · rw [or_iff_left fun hsame ↦ hself hsame.1.symm]
      by_cases habove : names <+: namesOf file
      · obtain ⟨entries, hentries⟩ := h.hasDirectory_withFile_of_isPrefix hapart habove hself
        refine iff_of_false (by simp [hentries]) ?_
        rintro ⟨other, hother, rfl, -⟩
        exact (hapart other hother).1 habove
      · by_cases hbelow : namesOf file <+: names
        · refine iff_of_false (by simp [h.find?_withFile_of_below hapart hbelow hself]) ?_
          rintro ⟨other, hother, rfl, -⟩
          exact (hapart other hother).2 hbelow
        · rw [find?_withFile_of_disjoint hbelow habove, h.find?_eq_file_iff]
  hasDirectory_iff names := by
    simp only [List.mem_append, List.mem_singleton, or_and_right, exists_or, exists_eq_left]
    by_cases habove : names <+: namesOf file ∧ names ≠ namesOf file
    · exact iff_of_true (h.hasDirectory_withFile_of_isPrefix hapart habove.1 habove.2)
        (.inr (.inr habove))
    · rw [or_iff_left habove]
      by_cases hbelow : namesOf file <+: names
      · refine iff_of_false ?_ ?_
        · rintro ⟨entries, hentries⟩
          by_cases hself : names = namesOf file
          · rw [hself, h.find?_withFile_self hapart] at hentries
            cases hentries
          · rw [h.find?_withFile_of_below hapart hbelow hself] at hentries
            cases hentries
        · rintro (rfl | ⟨other, hother, hstart, -⟩)
          · exact hfile (List.prefix_nil.mp hbelow)
          · exact (hapart other hother).2 (hbelow.trans hstart)
      · have hdisjoint : ¬ names <+: namesOf file := fun hstart ↦
          habove ⟨hstart, fun heq ↦ hbelow (heq ▸ List.prefix_refl _)⟩
        rw [Tree.HasDirectory, find?_withFile_of_disjoint hbelow hdisjoint, ← Tree.HasDirectory,
          h.hasDirectory_iff]

end Holds

/-- The tree of a package holds exactly its files. -/
theorem holds_treeOf (hfiles : ∀ file ∈ files, IsInside (.ofText file.1))
    (hapart : files.Pairwise Apart) : Holds (treeOf files) files := by
  induction files using List.reverseRecOn with
  | nil => exact holds_empty
  | append_singleton files file ih =>
    obtain ⟨hbefore, -, hlast⟩ := List.pairwise_append.mp hapart
    have hfile := hfiles file (List.mem_append_right _ (List.mem_singleton_self file))
    rw [treeOf, List.foldl_concat]
    exact (ih (fun other hother ↦ hfiles other (List.mem_append_left _ hother)) hbefore).withFile
      (fun other hother ↦ hlast other hother file (List.mem_singleton_self file))
      hfile.isOrdinary.names_ne_nil

end Files

/-! ## Moves in the directory of the output -/

section Moves

variable {base after : Volume} {output path : Path} {mark name target : String}
  {place : List String} {before entries : Named Tree}

/-- Moving something inside a directory, whatever its entries are by then. -/
theorem exists_of_runOn_rename (hleads : base.Leads path place)
    (hplace : base.tree.find? place = some (.directory before))
    (h : (Disk.rename (path.child name) (path.child target)).runOn (base.fill place entries) =
      (.ok (), after)) :
    ∃ entry, entries.find? name = some entry ∧
      after = base.fill place ((entries.without name).put target entry) ∧ target ≠ ".." ∧
        (base.fill place entries).locate (path.child target) = .ok (place ++ [target]) := by
  rcases Disk.runOn_rename (path.child name) (path.child target) (base.fill place entries) with
    ⟨failure, hrun⟩ | ⟨source, final, entry, hsource, hfinal, hentry, ⟨hname, htarget⟩, hrun⟩
  · rw [hrun] at h
    cases h
  · rw [Path.name_child] at hname htarget
    obtain ⟨-, found, rfl, hfound, -⟩ := (Volume.locate_child_eq_ok_iff hname).mp hsource
    obtain ⟨-, last, rfl, hlast, -⟩ := (Volume.locate_child_eq_ok_iff htarget).mp hfinal
    obtain rfl : found = place := Tree.follow_unique hleads hfound
    obtain rfl : last = found := Tree.follow_unique hleads hlast
    have hfilled := Volume.find?_fill hplace entries
    rw [Tree.find?_child hfilled] at hentry
    rw [h, Volume.edit_move_child hfilled, Volume.fill_fill, Prod.mk.injEq] at hrun
    exact ⟨entry, hentry, hrun.2, htarget, hfinal⟩

/-- The former output is moved away if something stands at the output. -/
theorem exists_of_runOn_moveAway {replaced : Bool} (hleads : base.Leads output.parent place)
    (hplace : base.tree.find? place = some (.directory before))
    (h : (moveAway output mark).runOn (base.fill place entries) = (.ok replaced, after)) :
    (replaced = false ∧ after = base.fill place entries ∧
        (base.fill place entries).entryAt? output = none) ∨
      (replaced = true ∧ output.names ≠ [] ∧ ∃ former, entries.find? output.name = some former ∧
        after = base.fill place
          ((entries.without output.name).put (backupName output mark) former) ∧
        (base.fill place entries).locate (backupPath output mark) =
          .ok (place ++ [backupName output mark])) := by
  rw [moveAway, Disk.runOn_bind, Disk.runOn_present] at h
  cases hpresent : (base.fill place entries).entryAt? output with
  | none =>
    rw [hpresent] at h
    obtain ⟨rfl, rfl⟩ : false = replaced ∧ base.fill place entries = after := by
      simpa using h
    exact .inl ⟨rfl, rfl, rfl⟩
  | some entry =>
    rw [hpresent] at h
    cases hname : output.name == "" with
    | true =>
      simp only [Option.isSome_some, if_true, hname] at h
      cases h
    | false =>
      have hnames : output.names ≠ [] := by
        intro hnil
        simp [Path.name, hnil] at hname
      simp only [Option.isSome_some, if_true, hname, Bool.false_eq_true, if_false] at h
      obtain ⟨_, between, hrename, hrest⟩ := Disk.runOn_bind_eq_ok_iff.mp h
      obtain ⟨rfl, rfl⟩ : true = replaced ∧ between = after := by simpa using hrest
      have hmove : (Disk.rename (output.parent.child output.name)
          (output.parent.child (backupName output mark))).runOn (base.fill place entries) =
            (.ok (), between) := by
        rw [Path.child_parent_name hnames]
        exact hrename
      obtain ⟨former, hformer, hbetween, -, hbackup⟩ := exists_of_runOn_rename hleads hplace hmove
      exact .inr ⟨rfl, hnames, former, hformer, hbetween, hbackup⟩

/-- A staged package has been moved to the output if moving it in succeeds, also where nothing has
been found at the output before. -/
theorem exists_of_runOn_moveIn {replaced : Bool} (hleads : base.Leads output.parent place)
    (hplace : base.tree.find? place = some (.directory before))
    (hnames : output.names ≠ [] ∨ (base.fill place entries).entryAt? output = none)
    (h : (moveIn output mark replaced).runOn (base.fill place entries) = (.ok (), after)) :
    (base.fill place entries).Leads output.parent place ∧
      (base.fill place entries).locate output = .ok (place ++ [output.name]) ∧
        ∃ package, entries.find? (stagingName output mark) = some package ∧
          after = base.fill place
            ((entries.without (stagingName output mark)).put output.name package) := by
  have hrename : (Disk.rename (stagingPath output mark) output).runOn (base.fill place entries) =
      (.ok (), after) := by
    refine Disk.eq_ok_of_runOn_tryCatch (fun failure volume _ _ ↦ ?_) h
    cases replaced with
    | true => exact Disk.runOn_bind_throw_ne _ failure volume _ _
    | false => exact fun hthrow ↦ nomatch hthrow
  have hlocate : ∃ found, (base.fill place entries).locate output = .ok found := by
    rcases Disk.runOn_rename (stagingPath output mark) output (base.fill place entries) with
      ⟨failure, hrun⟩ | ⟨_, found, _, -, hfound, -⟩
    · rw [hrun] at hrename
      cases hrename
    · exact ⟨found, hfound⟩
  obtain ⟨found, hfound⟩ := hlocate
  have hordinary : output.names ≠ [] := by
    -- A path without names is its own parent, where a directory stands.
    intro hnil
    have hself : output.parent = output := by
      unfold Path.parent
      rw [hnil, List.dropLast_nil, ← hnil]
    rw [hself] at hleads
    have hlast : (base.fill place entries).Leads output found := .of_locate hfound
    obtain rfl : found = place := Tree.follow_unique hleads hlast
    have hnone := hnames.resolve_left fun hne ↦ hne hnil
    simp [Volume.entryAt?, hfound, Except.toOption, Volume.find?_fill hplace] at hnone
  have hchild := Path.child_parent_name hordinary
  have hmove : (Disk.rename (output.parent.child (stagingName output mark))
      (output.parent.child output.name)).runOn (base.fill place entries) = (.ok (), after) := by
    rw [hchild]
    exact hrename
  obtain ⟨package, hpackage, hafter, hname, htarget⟩ := exists_of_runOn_rename hleads hplace hmove
  obtain ⟨-, last, hlast, hstays, -⟩ := (Volume.locate_child_eq_ok_iff hname).mp htarget
  obtain rfl : place = last := List.append_cancel_right hlast
  rw [hchild] at htarget
  exact ⟨hstays, htarget, package, hpackage, hafter⟩

end Moves

/-! ## Entries before and after -/

/-- The entries of the directory of an output before and after a package has been installed there.
Nothing but the output changes, except that a file which stood at the output is kept beside it. -/
structure IsInstalled (output : Path) (mark : String) (files : Named String)
    (before after : Named Tree) : Prop where
  find?_output : ∃ package, after.find? output.name = some package ∧ Holds package files
  find?_staging : before.find? (stagingName output mark) = none ∧
    after.find? (stagingName output mark) = none
  find?_backup : after.find? (backupName output mark) =
    match before.find? output.name with
    | none => before.find? (backupName output mark)
    | some (.directory _) => none
    | some (.file content) => some (.file content)
  find?_other : ∀ name, name ≠ output.name → name ≠ backupName output mark →
    after.find? name = before.find? name

section Entries

variable {output : Path} {mark : String} {files : Named String} {before staged : Named Tree}
  {package : Tree}

/-- The staged package becomes the output where nothing stood. -/
theorem isInstalled_of_new (hpackage : Holds package files)
    (hstaging : before.find? (stagingName output mark) = none)
    (hnew : before.find? output.name = none) :
    IsInstalled output mark files before
      (((before.put (stagingName output mark) package).without (stagingName output mark)).put
        output.name package) where
  find?_output := ⟨package, by rw [Named.find?_put, if_pos rfl], hpackage⟩
  find?_staging := by
    rw [Named.find?_put, if_neg stagingName_ne_name, Named.find?_without, if_pos rfl]
    exact ⟨hstaging, rfl⟩
  find?_backup := by
    rw [Named.without_put hstaging, Named.find?_put, if_neg backupName_ne_name, hnew]
  find?_other name hname _ := by
    rw [Named.without_put hstaging, Named.find?_put, if_neg hname]

/-- The entries once the former output has been moved away and the package has been moved in. -/
def swapped (output : Path) (mark : String) (before : Named Tree) (package former : Tree) :
    Named Tree :=
  ((((before.put (stagingName output mark) package).without output.name).put
    (backupName output mark) former).without (stagingName output mark)).put output.name package

theorem find?_swapped (former : Tree) (name : String) :
    (swapped output mark before package former).find? name =
      if name = output.name then some package
      else if name = stagingName output mark then none
      else if name = backupName output mark then some former
      else before.find? name := by
  rw [swapped, Named.find?_put, Named.find?_without, Named.find?_put, Named.find?_without,
    Named.find?_put]
  split_ifs <;> rfl

/-- The staged package becomes the output where something stood; what is left of it is removed if it
is a directory. -/
theorem isInstalled_of_former {former : Tree} (hpackage : Holds package files)
    (hstaging : before.find? (stagingName output mark) = none)
    (hformer : before.find? output.name = some former) :
    IsInstalled output mark files before
      (if former.isDirectory then
        (swapped output mark before package former).without (backupName output mark)
      else swapped output mark before package former) := by
  cases former with
  | file content =>
    rw [Tree.isDirectory, if_neg Bool.false_ne_true]
    exact {
      find?_output := ⟨package, by rw [find?_swapped, if_pos rfl], hpackage⟩
      find?_staging :=
        ⟨hstaging, by rw [find?_swapped, if_neg stagingName_ne_name, if_pos rfl]⟩
      find?_backup := by
        rw [find?_swapped, if_neg backupName_ne_name, if_neg backupName_ne_stagingName, if_pos rfl,
          hformer]
      find?_other := fun name hname hbackup ↦ by
        rw [find?_swapped, if_neg hname, if_neg hbackup]
        split_ifs with heq
        · rw [heq, hstaging]
        · rfl }
  | directory entries =>
    rw [Tree.isDirectory, if_pos rfl]
    exact {
      find?_output := ⟨package, by
        rw [Named.find?_without, if_neg backupName_ne_name.symm, find?_swapped, if_pos rfl],
        hpackage⟩
      find?_staging := ⟨hstaging, by
        rw [Named.find?_without, if_neg backupName_ne_stagingName.symm, find?_swapped,
          if_neg stagingName_ne_name, if_pos rfl]⟩
      find?_backup := by rw [Named.find?_without, if_pos rfl, hformer]
      find?_other := fun name hname hbackup ↦ by
        rw [Named.find?_without, if_neg hbackup, find?_swapped, if_neg hname, if_neg hbackup]
        split_ifs with heq
        · rw [heq, hstaging]
        · rfl }

end Entries

section Installing

variable {base after volume : Volume} {output : Path} {mark : String} {files : Named String}
  {place : List String} {before : Named Tree} {package : Tree}

/-- A package written where it is staged has become an entry of the directory of the output. -/
theorem eq_of_runOn_writeFiles_staged (hleads : base.Leads output.parent place)
    (hplace : base.tree.find? place = some (.directory before))
    (hfits : nameFits (stagingName output mark) = true)
    (hnew : before.find? (stagingName output mark) = none)
    (hfiles : ∀ file ∈ files, IsInside (.ofText file.1))
    (h : (files.forM (writeFile (stagingPath output mark))).runOn
      (base.fill place (before.put (stagingName output mark) .empty)) = (.ok (), after)) :
    after = base.fill place (before.put (stagingName output mark) (treeOf files)) := by
  have hfilled (entries : Named Tree) :
      (base.fill place entries).tree.find? place = some (.directory entries) :=
    Volume.find?_fill hplace entries
  have hstaged (content : Tree) (others : Named Tree) :
      (base.fill place (before.put (stagingName output mark) content)).fill
          (place ++ [stagingName output mark]) others =
        base.fill place (before.put (stagingName output mark) (.directory others)) := by
    rw [Volume.fill, Volume.edit_put_child (hfilled _), Named.put_put, Volume.fill_fill]
  -- Whatever has been written of the package leaves the way to it alone.
  have hway (others : Named Tree) :
      ((base.fill place (before.put (stagingName output mark) .empty)).fill
        (place ++ [stagingName output mark]) others).Leads (stagingPath output mark)
          (place ++ [stagingName output mark]) := by
    rw [hstaged]
    have hparent : (base.fill place
        (before.put (stagingName output mark) (.directory others))).Leads output.parent place := by
      refine hleads.fill hplace (Volume.fill_of_find? hplace ▸ hleads) fun name hname _ ↦ ?_
      rw [Named.find?_put, if_neg]
      rintro rfl
      simp [hnew] at hname
    exact hparent.child stagingName_ne_back hfits ⟨_, hfilled _⟩
  have hempty : (base.fill place (before.put (stagingName output mark) .empty)).tree.find?
      (place ++ [stagingName output mark]) = some (.directory []) := by
    rw [Tree.find?_child (hfilled _), Named.find?_put, if_pos rfl]
    rfl
  obtain ⟨outcome, staged, hwrite, hwritten⟩ := runOn_writeFiles hfiles hway hempty
  rw [hstaged, h, Prod.mk.injEq] at hwrite
  obtain ⟨rfl, rfl⟩ := hwrite
  have hpackage : Tree.directory staged = treeOf files := hwritten rfl
  rw [hpackage]

/-- Where the way to the directory of the output is open before a staged package takes the place of
the output, it still is afterwards, as no entry on the way has been moved. -/
theorem leads_swapped {former : Tree} (hleads : base.Leads output.parent place)
    (hplace : base.tree.find? place = some (.directory before))
    (hnew : before.find? (stagingName output mark) = none)
    (hparent : (base.fill place (((before.put (stagingName output mark) package).without
      output.name).put (backupName output mark) former)).Leads output.parent place) :
    (base.fill place (swapped output mark before package former)).Leads output.parent place := by
  refine hleads.fill hplace hparent fun name hname hlater ↦ ?_
  have houtput : name ≠ output.name := by
    rintro rfl
    rw [Named.find?_put, if_neg backupName_ne_name.symm, Named.find?_without, if_pos rfl] at hlater
    cases hlater
  have hstaging : name ≠ stagingName output mark := by
    rintro rfl
    simp [hnew] at hname
  rw [swapped, Named.find?_put, if_neg houtput, Named.find?_without, if_neg hstaging]

/-- A package that has been staged and moved in has become an entry of the directory of the output;
what stood there before is kept under its other name until the end. -/
theorem exists_of_runOn_replaceOutput {replaced : Bool} (hleads : base.Leads output.parent place)
    (hplace : base.tree.find? place = some (.directory before))
    (hfits : nameFits (stagingName output mark) = true)
    (hnew : before.find? (stagingName output mark) = none)
    (hfiles : ∀ file ∈ files, IsInside (.ofText file.1))
    (h : (replaceOutput files output mark).runOn
      (base.fill place (before.put (stagingName output mark) .empty)) = (.ok replaced, after)) :
    (replaced = false ∧ before.find? output.name = none ∧
        after = base.fill place (((before.put (stagingName output mark) (treeOf files)).without
          (stagingName output mark)).put output.name (treeOf files))) ∨
      (replaced = true ∧ ∃ former, before.find? output.name = some former ∧
        after = base.fill place (swapped output mark before (treeOf files) former) ∧
          after.locate (backupPath output mark) = .ok (place ++ [backupName output mark])) := by
  have hfilled (entries : Named Tree) :
      (base.fill place entries).tree.find? place = some (.directory entries) :=
    Volume.find?_fill hplace entries
  rw [replaceOutput] at h
  obtain ⟨_, between, hwrites, h⟩ := Disk.runOn_bind_eq_ok_iff.mp h
  obtain rfl := eq_of_runOn_writeFiles_staged hleads hplace hfits hnew hfiles hwrites
  obtain ⟨moved, between, haway, h⟩ := Disk.runOn_bind_eq_ok_iff.mp h
  obtain ⟨_, final, hin, h⟩ := Disk.runOn_bind_eq_ok_iff.mp h
  obtain ⟨rfl, rfl⟩ : moved = replaced ∧ final = after := by simpa using h
  rcases exists_of_runOn_moveAway hleads hplace haway with
    ⟨rfl, rfl, hnone⟩ | ⟨rfl, hnames, former, hformer, rfl, hbackup⟩
  · obtain ⟨-, hlocate, package, hstagedPackage, rfl⟩ :=
      exists_of_runOn_moveIn hleads hplace (.inr hnone) hin
    refine .inl ⟨rfl, ?_, ?_⟩
    · rw [Volume.entryAt?, hlocate] at hnone
      have hchild := Tree.find?_child (hfilled (before.put (stagingName output mark)
        (treeOf files))) output.name
      rw [Named.find?_put, if_neg stagingName_ne_name.symm] at hchild
      exact hchild.symm.trans hnone
    · rw [Named.find?_put, if_pos rfl, Option.some.injEq] at hstagedPackage
      rw [hstagedPackage]
  · obtain ⟨hparent, -, package, hstagedPackage, rfl⟩ :=
      exists_of_runOn_moveIn hleads hplace (.inl hnames) hin
    rw [Named.find?_put, if_neg backupName_ne_stagingName.symm, Named.find?_without,
      if_neg stagingName_ne_name, Named.find?_put, if_pos rfl, Option.some.injEq] at hstagedPackage
    subst hstagedPackage
    rw [Named.find?_put, if_neg stagingName_ne_name.symm] at hformer
    obtain ⟨hfitsBackup, -⟩ := (Volume.locate_child_eq_ok_iff backupName_ne_back).mp hbackup
    have hstays := leads_swapped hleads hplace hnew hparent
    exact .inr ⟨rfl, former, hformer, rfl, (Volume.locate_child_eq_ok_iff backupName_ne_back).mpr
      ⟨hfitsBackup, place, rfl, hstays, _, hfilled _⟩⟩

/-- What an installation has made of a volume: the directory of the output, unless it was there, and
other entries in that directory. -/
structure Installs (output : Path) (mark : String) (files : Named String)
    (volume base after : Volume) (place : List String) (before entries : Named Tree) : Prop where
  makeDirectories_eq : (Disk.makeDirectories output.parent).runOn volume = (.ok (), base)
  base_eq : (volume.entryAt? output.parent).any Tree.isDirectory = true → base = volume
  leads : base.Leads output.parent place
  find?_place : base.tree.find? place = some (.directory before)
  find?_before : ".." ∉ output.parent.names →
    ∀ name, before.find? name = volume.tree.find? (place ++ [name])
  after_eq : after = base.fill place entries
  isInstalled : IsInstalled output mark files before entries

/-- Making the directory of the output changes no entry of it. -/
theorem installs_of_isInstalled {entries : Named Tree}
    (hparents : (Disk.makeDirectories output.parent).runOn volume = (.ok (), base))
    (hleads : base.Leads output.parent place)
    (hplace : base.tree.find? place = some (.directory before))
    (hafter : after = base.fill place entries)
    (h : IsInstalled output mark files before entries) :
    Installs output mark files volume base after place before entries where
  makeDirectories_eq := hparents
  base_eq hdirectory := by
    rw [Disk.runOn_makeDirectories_of_isDirectory hdirectory, Prod.mk.injEq] at hparents
    exact hparents.2.symm
  leads := hleads
  find?_place := hplace
  find?_before hback name := by
    have hmade := Disk.made_makeDirectories hback volume
    rw [hparents] at hmade
    obtain ⟨rfl, -⟩ := (Tree.follow_eq_ok_iff hback).mp hleads
    rw [hmade.start_eq] at hplace ⊢
    have hbelow : ¬ volume.start output.parent ++ output.parent.names ++ [name] <+:
        volume.placeOf output.parent := by
      intro hstart
      have hlength := hstart.length_le
      simp only [Volume.placeOf, List.length_append, List.length_singleton] at hlength
      omega
    rw [← hmade.find?_eq hbelow, Tree.find?_child hplace]
  after_eq := hafter
  isInstalled := h

/-- An installation that succeeds makes the directory of the output and replaces the output among
its entries. -/
theorem exists_installs (hfiles : ∀ file ∈ files, IsInside (.ofText file.1))
    (hapart : files.Pairwise Apart)
    (h : (install files output mark).runOn volume = (.ok (), after)) :
    ∃ base place before entries,
      Installs output mark files volume base after place before entries := by
  rw [install] at h
  obtain ⟨_, base, hparents, h⟩ := Disk.runOn_bind_eq_ok_iff.mp h
  obtain ⟨_, between, hmake, h⟩ := Disk.runOn_bind_eq_ok_iff.mp h
  obtain ⟨replaced, moved, hreplace, h⟩ := Disk.runOn_bind_eq_ok_iff.mp h
  have hrun := Disk.eq_ok_of_runOn_tryCatch
    (fun failure volume _ _ ↦ Disk.runOn_bind_throw_ne _ failure volume _ _) hreplace
  rcases Disk.runOn_makeDirectory (stagingPath output mark) base with
    ⟨failure, hmade⟩ | ⟨found, hlocate, hnew, hmade⟩
  · rw [hmade] at hmake
    cases hmake
  · obtain ⟨⟨-, hfits⟩, place, rfl, hleads, before, hbefore⟩ :=
      (Volume.locate_child_eq_ok_iff stagingName_ne_back).mp hlocate
    rw [hmade, Prod.mk.injEq] at hmake
    obtain ⟨-, rfl⟩ := hmake
    rw [Tree.find?_child hbefore] at hnew
    rw [Volume.edit_put_child hbefore] at hrun
    have hholds := holds_treeOf hfiles hapart
    rcases exists_of_runOn_replaceOutput hleads hbefore hfits hnew hfiles hrun with
      ⟨rfl, hnone, rfl⟩ | ⟨rfl, former, hformer, rfl, hbackup⟩
    · obtain rfl : _ = after := (Prod.mk.inj h).2
      exact ⟨base, place, before, _, installs_of_isInstalled hparents hleads hbefore rfl
        (isInstalled_of_new hholds hnew hnone)⟩
    · rw [if_pos rfl, Disk.runOn_removeDirectory_of_locate hbackup (Volume.find?_fill hbefore _),
        find?_swapped, if_neg backupName_ne_name, if_neg backupName_ne_stagingName, if_pos rfl,
        Volume.fill_fill, Option.any_some, Prod.mk.injEq] at h
      refine ⟨base, place, before, _, installs_of_isInstalled hparents hleads hbefore ?_
        (isInstalled_of_former hholds hnew hformer)⟩
      rw [← h.2]
      split_ifs <;> rfl

/-- Beside the output, an installation leaves everything as it was exactly if no file stood at its
place. -/
theorem IsInstalled.forall_find?_eq_iff {entries : Named Tree}
    (h : IsInstalled output mark files before entries)
    (hbackup : before.find? (backupName output mark) = none) :
    (∀ name, name ≠ output.name → entries.find? name = before.find? name) ↔
      ∀ content, before.find? output.name ≠ some (.file content) := by
  have hkept := h.find?_backup
  constructor
  · intro hothers content hfile
    rw [hothers _ backupName_ne_name, hbackup, hfile] at hkept
    cases hkept
  · intro hfile name hname
    by_cases heq : name = backupName output mark
    · rw [heq, hkept, hbackup]
      cases hformer : before.find? output.name with
      | none => rfl
      | some former =>
        cases former with
        | directory _ => rfl
        | file content => exact absurd hformer (hfile content)
    · exact h.find?_other name hname heq

/-- An installation that succeeds leaves at the output exactly the files of the package, wherever
the output is and whatever stood there. Nothing else changes in the directory of the output, exactly
if no file stood at the output: a file stays there under its backup name. -/
theorem install_keeps_others_iff (hfiles : ∀ file ∈ files, IsInside (.ofText file.1))
    (hapart : files.Pairwise Apart)
    (h : (install files output mark).runOn volume = (.ok (), after)) :
    ∃ base place before entries,
      Installs output mark files volume base after place before entries ∧
        (before.find? (backupName output mark) = none →
          ((∀ name, name ≠ output.name → entries.find? name = before.find? name) ↔
            ∀ content, before.find? output.name ≠ some (.file content))) := by
  obtain ⟨base, place, before, entries, hinstalls⟩ := exists_installs hfiles hapart h
  exact ⟨base, place, before, entries, hinstalls,
    hinstalls.isInstalled.forall_find?_eq_iff⟩

/-- A working directory in which something stands at the output. -/
def volumeWith (former : Tree) : Volume :=
  ⟨.directory [("work", .directory [("other", .empty), ("pkg", former)])], ["work"]⟩

/-- A package of one file. -/
def singleFile : Named String :=
  [("a.py", "x")]

/-- A former directory is gone afterwards, and a former file is not. -/
theorem install_over_file_leaves_backup :
    ((∀ file ∈ singleFile, IsInside (.ofText file.1)) ∧ singleFile.Pairwise Apart) ∧
      (install singleFile ⟨"", ["pkg"]⟩ "m").runOn (volumeWith (.directory [("old", .empty)])) =
        (.ok (), ⟨.directory [("work", .directory [("other", .empty),
          ("pkg", treeOf singleFile)])], ["work"]⟩) ∧
      (install singleFile ⟨"", ["pkg"]⟩ "m").runOn (volumeWith (.file (.text "old"))) =
        (.ok (), ⟨.directory [("work", .directory [("other", .empty),
          (".pkg-m.old", .file (.text "old")), ("pkg", treeOf singleFile)])], ["work"]⟩) ∧
      ∃ base place before entries,
        Installs ⟨"", ["pkg"]⟩ "m" singleFile (volumeWith (.file (.text "old"))) base
          ⟨.directory [("work", .directory [("other", .empty),
            (".pkg-m.old", .file (.text "old")), ("pkg", treeOf singleFile)])], ["work"]⟩
          place before entries ∧
        (before.find? (backupName ⟨"", ["pkg"]⟩ "m") = none →
          ((∀ name, name ≠ "pkg" → entries.find? name = before.find? name) ↔
            ∀ content, before.find? "pkg" ≠ some (.file content))) := by
  have hfiles : ∀ file ∈ singleFile, IsInside (.ofText file.1) := by
    rintro _ (_ | ⟨_, ⟨⟩⟩)
    exact ⟨⟨by decide, by decide⟩, rfl⟩
  have hapart : singleFile.Pairwise Apart := List.pairwise_singleton ..
  exact ⟨⟨hfiles, hapart⟩, rfl, rfl, install_keeps_others_iff hfiles hapart rfl⟩

end Installing

end ApiCompiler.Package
