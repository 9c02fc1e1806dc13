import ApiCompiler.Files.Disk
import ApiCompiler.Proofs.Files.Volume

/-!
# What operations on files change

Each operation fails and leaves the volume alone, or sets what stands at the place of its path,
whatever the system refuses. Only a text that has no bytes, or whose writing is refused once the
file is open, leaves something behind. Making a directory with the directories on the way to it adds
empty directories on that way, and nothing else.
-/

namespace ApiCompiler.Files

/-- Directories have been made on a way, each where nothing stood. -/
inductive Volume.Made (way : List String) (volume : Volume) : Volume → Prop
  | refl : Made way volume volume
  | step {after : Volume} {place : List String} (h : Made way volume after)
      (hplace : place <+: way) (hnew : after.tree.find? place = none) :
      Made way volume (after.edit (·.put place .empty))

namespace Volume.Made

variable {volume between after : Volume} {way wider place : List String}

theorem trans (h : Made way volume between) (hafter : Made way between after) :
    Made way volume after := by
  induction hafter with
  | refl => exact h
  | step _ hplace hnew ih => exact ih.step hplace hnew

theorem mono (h : Made way volume after) (hway : way <+: wider) : Made wider volume after := by
  induction h with
  | refl => exact .refl
  | step _ hplace hnew ih => exact ih.step (hplace.trans hway) hnew

theorem working_eq (h : Made way volume after) : after.working = volume.working := by
  induction h with
  | refl => rfl
  | step _ _ _ ih => exact ih

theorem start_eq (h : Made way volume after) (path : Path) :
    after.start path = volume.start path := by
  unfold Volume.start
  rw [h.working_eq]

/-- Directories stay where they are. -/
theorem hasDirectory (h : Made way volume after) (hplace : volume.tree.HasDirectory place) :
    after.tree.HasDirectory place := by
  induction h with
  | refl => exact hplace
  | @step after made _ _ hnew ih =>
    by_cases habove : place <+: made
    · obtain ⟨entries, hentries⟩ := ih
      obtain ⟨rest, rfl⟩ := habove
      have hrest : rest ≠ [] := by
        rintro rfl
        simp [hentries] at hnew
      obtain ⟨filled, -, hedit⟩ := Volume.exists_edit_put_below hentries hrest .empty
      exact ⟨filled, by rw [hedit, Volume.find?_fill hentries]⟩
    · obtain ⟨entries, hentries⟩ := ih
      exact ⟨entries, (Tree.find?_put_empty_of_not_isPrefix hnew habove).trans hentries⟩

theorem leads {path : Path} {found : List String} (h : Made way volume after)
    (hleads : volume.Leads path found) : after.Leads path found := by
  unfold Volume.Leads at hleads ⊢
  rw [h.start_eq]
  exact Tree.follow_eq_ok_of_hasDirectory (fun _ hplace _ ↦ h.hasDirectory hplace) hleads hleads

/-- What does not lie on the way is as it was. -/
theorem find?_eq (h : Made way volume after) (hplace : ¬ place <+: way) :
    after.tree.find? place = volume.tree.find? place := by
  induction h with
  | refl => rfl
  | step _ hmade hnew ih =>
    rw [← ih]
    exact Tree.find?_put_empty_of_not_isPrefix hnew fun habove ↦ hplace (habove.trans hmade)

end Volume.Made

namespace Disk

variable {α β : Type}

/-! ## Running a computation -/

@[simp] theorem runOn_pure (a : α) (volume : Volume) :
    (pure a : Disk α).runOn volume = (.ok a, volume) :=
  rfl

@[simp] theorem runOn_throw (failure : Failure) (volume : Volume) :
    (throw failure : Disk α).runOn volume = (.error failure, volume) :=
  rfl

@[simp] theorem runOn_fail (path : Path) (kind : FaultKind) (volume : Volume) :
    (fail path kind : Disk α).runOn volume = (.error (.file ⟨kind, some path.text⟩), volume) :=
  rfl

@[simp] theorem runOn_get (volume : Volume) :
    (get : Disk Volume).runOn volume = (.ok volume, volume) :=
  rfl

@[simp] theorem runOn_modify (f : Volume → Volume) (volume : Volume) :
    (modify f : Disk Unit).runOn volume = (.ok (), f volume) :=
  rfl

theorem runOn_bind (disk : Disk α) (f : α → Disk β) (volume : Volume) :
    (disk >>= f).runOn volume =
      match disk.runOn volume with
      | (.ok a, after) => (f a).runOn after
      | (.error failure, after) => (.error failure, after) := by
  show ExceptT.bind disk f volume = _
  unfold ExceptT.bind ExceptT.mk
  show ((disk volume).1 |> ExceptT.bindCont f) (disk volume).2 = _
  unfold runOn ExceptT.run
  rcases disk volume with ⟨_ | _, after⟩ <;> rfl

theorem runOn_tryCatch (disk : Disk α) (handle : Failure → Disk α) (volume : Volume) :
    (tryCatch disk handle).runOn volume =
      match disk.runOn volume with
      | (.ok a, after) => (.ok a, after)
      | (.error failure, after) => (handle failure).runOn after := by
  show ExceptT.tryCatch disk handle volume = _
  unfold runOn ExceptT.run
  unfold ExceptT.tryCatch ExceptT.mk
  simp only [bind, StateT.bind]
  rcases disk volume with ⟨_ | _, after⟩ <;> rfl

/-- A sequence succeeds when its parts do. -/
theorem runOn_bind_eq_ok_iff {disk : Disk α} {f : α → Disk β} {volume after : Volume} {b : β} :
    (disk >>= f).runOn volume = (.ok b, after) ↔ ∃ a between,
      disk.runOn volume = (.ok a, between) ∧ (f a).runOn between = (.ok b, after) := by
  rw [runOn_bind]
  constructor
  · intro h
    rcases hdisk : disk.runOn volume with ⟨failure | a, between⟩
    · rw [hdisk] at h
      cases h
    · rw [hdisk] at h
      exact ⟨a, between, rfl, h⟩
  · rintro ⟨a, between, hdisk, h⟩
    rw [hdisk]
    exact h

/-- A computation whose failures are handled by failing succeeds by itself only. -/
theorem eq_ok_of_runOn_tryCatch {disk : Disk α} {handle : Failure → Disk α}
    {volume after : Volume} {a : α}
    (hfails : ∀ failure volume b after, (handle failure).runOn volume ≠ (.ok b, after))
    (h : (tryCatch disk handle).runOn volume = (.ok a, after)) :
    disk.runOn volume = (.ok a, after) := by
  rw [runOn_tryCatch] at h
  rcases hdisk : disk.runOn volume with ⟨failure | b, between⟩
  · rw [hdisk] at h
    exact absurd h (hfails failure between a after)
  · rw [hdisk] at h
    exact h

/-- A failure that is raised at the end is no success. -/
theorem runOn_bind_throw_ne (disk : Disk β) (failure : Failure) (volume after : Volume) (a : α) :
    (disk >>= fun _ ↦ (throw failure : Disk α)).runOn volume ≠ (.ok a, after) := by
  intro h
  obtain ⟨_, _, -, hthrow⟩ := runOn_bind_eq_ok_iff.mp h
  cases hthrow

/-! ## Single operations -/

variable {path : Path}

theorem runOn_placeOf (path : Path) (volume : Volume) :
    (placeOf path).runOn volume =
      match volume.locate path with
      | .ok place => (.ok place, volume)
      | .error kind => (.error (.file ⟨kind, some path.text⟩), volume) := by
  rw [placeOf, runOn_bind, runOn_get]
  cases hlocate : volume.locate path <;> simp [hlocate]

@[simp] theorem runOn_entryAt? (path : Path) (volume : Volume) :
    (entryAt? path).runOn volume = (.ok (volume.entryAt? path), volume) :=
  rfl

@[simp] theorem runOn_present (path : Path) (volume : Volume) :
    (present path).runOn volume = (.ok (volume.entryAt? path).isSome, volume) :=
  rfl

@[simp] theorem runOn_isDirectory (path : Path) (volume : Volume) :
    (isDirectory path).runOn volume =
      (.ok ((volume.entryAt? path).any Tree.isDirectory), volume) :=
  rfl

theorem runOn_ask (access : Access) (path : Path) (place : List String) (volume : Volume) :
    (ask access path place).runOn volume =
      match volume.refusal? access place with
      | none => (.ok (), volume)
      | some refusal => (.error (.file ⟨.refused refusal, some path.text⟩), volume) := by
  rw [ask, runOn_bind, runOn_get]
  simp only
  cases volume.refusal? access place <;> rfl

/-- A text is written, or something is left in its place. -/
theorem runOn_writeText (place : List String) (text : String) (volume : Volume) :
    (∃ failure content, (writeText place text).runOn volume =
        (.error failure, volume.edit (·.put place (.file content)))) ∨
      (writeText place text).runOn volume =
        (.ok (), volume.edit (·.put place (.file (.text text)))) := by
  rw [writeText, runOn_bind, runOn_get]
  simp only
  cases volume.refusal? .writeFile place with
  | none => exact .inr rfl
  | some refusal => exact .inl ⟨_, _, rfl⟩

/-- What is wrong with the text of a path. -/
def pathFault? (operation : String) (path : Path) : Option Failure :=
  match Text.nameFault? path.text with
  | some fault => some (.encoding fault)
  | none =>
    if path.text.toList.any fun c ↦ c.toNat == 0 then some (.nullInPath operation) else none

theorem runOn_checkPath (operation : String) (path : Path) (volume : Volume) :
    (checkPath operation path).runOn volume =
      ((pathFault? operation path).elim (.ok ()) .error, volume) := by
  unfold checkPath pathFault?
  cases Text.nameFault? path.text with
  | some fault => rfl
  | none => cases path.text.toList.any fun c ↦ c.toNat == 0 <;> rfl

theorem isMissing_of_pathFault? {operation : String} {failure : Failure}
    (h : pathFault? operation path = some failure) : isMissing failure = false := by
  unfold pathFault? at h
  split at h
  · cases h
    rfl
  · split at h
    · cases h
      rfl
    · cases h

/-- Making a directory fails or puts an empty one where nothing stood. -/
theorem runOn_makeDirectory (path : Path) (volume : Volume) :
    (∃ failure, (makeDirectory path).runOn volume = (.error failure, volume)) ∨
      ∃ place, volume.locate path = .ok place ∧ volume.tree.find? place = none ∧
        (makeDirectory path).runOn volume = (.ok (), volume.edit (·.put place .empty)) := by
  rw [makeDirectory, runOn_bind]
  rw [runOn_checkPath]
  cases pathFault? "mkdir" path with
  | some failure => exact .inl ⟨failure, rfl⟩
  | none =>
    simp only [Option.elim_none, runOn_bind, runOn_placeOf]
    cases hlocate : volume.locate path with
    | error kind => exact .inl ⟨_, rfl⟩
    | ok place =>
      simp only [runOn_get]
      cases hfound : volume.tree.find? place with
      | some entry => exact .inl ⟨_, rfl⟩
      | none =>
        simp only [Option.isSome_none, Bool.false_eq_true, if_false, runOn_bind, runOn_ask]
        cases volume.refusal? .makeDirectory place with
        | some refusal => exact .inl ⟨_, rfl⟩
        | none => exact .inr ⟨place, rfl, hfound, rfl⟩

/-- Writing a file fails, or leaves it with the text; once the file is open it does both, with
something in the file. -/
theorem runOn_write (path : Path) (text : String) (volume : Volume) :
    (∃ failure, (write path text).runOn volume = (.error failure, volume)) ∨
      ∃ place, volume.locate path = .ok place ∧
        ((∃ failure content, (write path text).runOn volume =
            (.error failure, volume.edit (·.put place (.file content)))) ∨
          (write path text).runOn volume =
            (.ok (), volume.edit (·.put place (.file (.text text))))) := by
  rw [write, runOn_bind]
  rw [runOn_checkPath]
  cases pathFault? "open" path with
  | some failure => exact .inl ⟨failure, rfl⟩
  | none =>
    simp only [Option.elim_none, runOn_bind, runOn_placeOf]
    cases hlocate : volume.locate path with
    | error kind => exact .inl ⟨_, rfl⟩
    | ok place =>
      simp only [runOn_get]
      cases (volume.tree.find? place).any Tree.isDirectory with
      | true => exact .inl ⟨_, rfl⟩
      | false =>
        simp only [Bool.false_eq_true, if_false, runOn_bind, runOn_ask]
        cases volume.refusal? .openFile place with
        | some refusal => exact .inl ⟨_, rfl⟩
        | none =>
          refine .inr ⟨place, rfl, ?_⟩
          cases Text.encodingFault? .utf8 text with
          | none => exact runOn_writeText place text volume
          | some fault => exact .inl ⟨_, _, rfl⟩

/-- Why a file cannot be read although it is there, or its path cannot even be looked up. -/
inductive EscapesRead (volume : Volume) (path : Path) : Failure → Prop
  | path {failure : Failure} (h : pathFault? "open" path = some failure) :
      EscapesRead volume path failure
  | content {place : List String} {bytes : List UInt8} {fault : DecodeFault}
      (hpath : pathFault? "open" path = none) (hlocate : volume.locate path = .ok place)
      (hfile : volume.tree.find? place = some (.file (.bytes bytes)))
      (hopen : volume.refusal? .openFile place = none)
      (hread : volume.refusal? .readFile place = none)
      (h : decode bytes = .error fault) :
      EscapesRead volume path (.undecodable bytes fault.start fault.stop fault.reason)

/-- Renaming fails, or moves what stands at one place to the other. -/
theorem runOn_rename (path target : Path) (volume : Volume) :
    (∃ failure, (rename path target).runOn volume = (.error failure, volume)) ∨
      ∃ source place entry, volume.locate path = .ok source ∧ volume.locate target = .ok place ∧
        volume.tree.find? source = some entry ∧ (path.name ≠ ".." ∧ target.name ≠ "..") ∧
          (rename path target).runOn volume =
            (.ok (), volume.edit fun tree ↦ (tree.remove source).put place entry) := by
  rw [rename]
  simp only [runOn_bind, runOn_placeOf]
  cases hsource : volume.locate path with
  | error kind => exact .inl ⟨_, rfl⟩
  | ok source =>
    simp only
    cases hplace : volume.locate target with
    | error kind => exact .inl ⟨_, rfl⟩
    | ok place =>
      simp only
      cases hback : path.name == ".." || target.name == ".." with
      | true => exact .inl ⟨_, rfl⟩
      | false =>
        have hnames : path.name ≠ ".." ∧ target.name ≠ ".." := by simpa using hback
        simp only [Bool.false_eq_true, if_false, runOn_bind, runOn_get]
        cases hentry : volume.tree.find? source with
        | none => exact .inl ⟨_, rfl⟩
        | some entry => exact .inr ⟨source, place, entry, rfl, rfl, hentry, hnames, rfl⟩

/-- Removing a directory that is found takes it out of the entries that it is among. -/
theorem runOn_removeDirectory_of_locate {volume : Volume} {place : List String} {name : String}
    {entries : Named Tree} (hlocate : volume.locate path = .ok (place ++ [name]))
    (hplace : volume.tree.find? place = some (.directory entries)) :
    (removeDirectory path).runOn volume =
      (.ok (), if (entries.find? name).any Tree.isDirectory then
        volume.fill place (entries.without name) else volume) := by
  have hentry : volume.entryAt? path = entries.find? name := by
    rw [Volume.entryAt?, hlocate]
    exact Tree.find?_child hplace name
  rw [removeDirectory, runOn_bind, runOn_isDirectory, hentry]
  cases (entries.find? name).any Tree.isDirectory with
  | false => rfl
  | true => simp [runOn_bind, runOn_placeOf, hlocate, ← Volume.edit_remove_child hplace]

/-- A directory cannot be made for want of the way to it only if it cannot be found. -/
theorem locate_eq_of_isMissing {volume after : Volume} {failure : Failure}
    (h : (makeDirectory path).runOn volume = (.error failure, after))
    (hmissing : isMissing failure = true) : volume.locate path = .error .noEntry := by
  rw [makeDirectory, runOn_bind, runOn_checkPath] at h
  cases hfault : pathFault? "mkdir" path with
  | some cause =>
    rw [hfault] at h
    obtain rfl : cause = failure := Except.error.inj (congrArg Prod.fst h)
    simp [isMissing_of_pathFault? hfault] at hmissing
  | none =>
    simp only [hfault, Option.elim_none, runOn_bind, runOn_placeOf] at h
    cases hlocate : volume.locate path with
    | error kind =>
      rw [hlocate] at h
      obtain rfl : Failure.file ⟨kind, some path.text⟩ = failure :=
        Except.error.inj (congrArg Prod.fst h)
      cases kind with
      | noEntry => rfl
      | _ => cases hmissing
    | ok place =>
      rw [hlocate] at h
      simp only [runOn_get] at h
      cases hfound : volume.tree.find? place with
      | none =>
        simp only [hfound, Option.isSome_none, Bool.false_eq_true, if_false, runOn_bind,
          runOn_ask] at h
        cases hrefusal : volume.refusal? .makeDirectory place with
        | none =>
          rw [hrefusal] at h
          cases h
        | some refusal =>
          rw [hrefusal] at h
          obtain rfl : Failure.file ⟨.refused refusal, some path.text⟩ = failure :=
            Except.error.inj (congrArg Prod.fst h)
          cases hmissing
      | some entry =>
        rw [hfound] at h
        obtain rfl : Failure.file ⟨.exists, some path.text⟩ = failure :=
          Except.error.inj (congrArg Prod.fst h)
        cases hmissing

section Below

variable {directory other : Path} {place : List String} {volume : Volume}

theorem made_makeDirectory (hleads : volume.Leads directory place) (hroot : other.root = "")
    (hback : ".." ∉ other.names) : volume.Made (place ++ other.names)
      ((makeDirectory (directory.append other)).runOn volume).2 := by
  rcases runOn_makeDirectory (directory.append other) volume with
    ⟨failure, hrun⟩ | ⟨found, hlocate, hnew, hrun⟩
  · rw [hrun]
    exact .refl
  · obtain rfl := hleads.eq_of_append hroot hback (.of_locate hlocate)
    rw [hrun]
    exact .step .refl (List.prefix_refl _) hnew

theorem made_ensureDirectory (hleads : volume.Leads directory place) (hroot : other.root = "")
    (hback : ".." ∉ other.names) : volume.Made (place ++ other.names)
      ((ensureDirectory (directory.append other)).runOn volume).2 := by
  have hmade := made_makeDirectory hleads hroot hback
  rw [ensureDirectory, runOn_tryCatch]
  rcases hrun : (makeDirectory (directory.append other)).runOn volume with ⟨failure | _, after⟩
  · rw [hrun] at hmade
    simp only [runOn_bind, runOn_isDirectory]
    cases (after.entryAt? (directory.append other)).any Tree.isDirectory <;> exact hmade
  · rw [hrun] at hmade
    exact hmade

/-- Making directories on the way to a path below a directory changes nothing else. -/
theorem made_makeDirectoriesFrom (hleads : volume.Leads directory place) (hroot : other.root = "")
    (hback : ".." ∉ other.names) (fuel : Nat) : volume.Made (place ++ other.names)
      ((makeDirectoriesFrom fuel (directory.append other)).runOn volume).2 := by
  induction fuel generalizing other volume with
  | zero => exact made_ensureDirectory hleads hroot hback
  | succ fuel ih =>
    have hmade := made_makeDirectory hleads hroot hback
    rw [makeDirectoriesFrom, runOn_tryCatch]
    rcases hrun : (makeDirectory (directory.append other)).runOn volume with ⟨failure | _, after⟩
    · rw [hrun] at hmade
      simp only
      cases hmissing : isMissing failure with
      | true =>
        -- The directory itself is not missing, so that the parent is below it as well.
        have hne : other.names ≠ [] := by
          intro hnil
          have hself : directory.append other = directory := by
            simp [Path.append, hroot, hnil]
          have hlocate := locate_eq_of_isMissing hrun hmissing
          rw [hself] at hlocate
          exact hleads.locate_ne hlocate
        have hparent : (directory.append other).parent = directory.append other.parent := by
          simp [Path.append, Path.parent, hroot, List.dropLast_append_of_ne_nil hne]
        have hway : place ++ other.parent.names <+: place ++ other.names :=
          (List.prefix_append_right_inj _).mpr (List.dropLast_prefix _)
        have hbefore := (ih (hmade.leads hleads) (show other.parent.root = "" from hroot)
          fun hmem ↦ hback (List.dropLast_subset _ hmem)).mono hway
        simp only [if_true, runOn_bind, hparent]
        rcases hparents : (makeDirectoriesFrom fuel (directory.append other.parent)).runOn after
          with ⟨_ | _, between⟩
        · rw [hparents] at hbefore
          exact hmade.trans hbefore
        · rw [hparents] at hbefore
          have hmadeBefore := hmade.trans hbefore
          exact hmadeBefore.trans
            (made_ensureDirectory (hmadeBefore.leads hleads) hroot hback)
      | false =>
        simp only [Bool.false_eq_true, if_false, runOn_bind, runOn_isDirectory]
        cases (after.entryAt? (directory.append other)).any Tree.isDirectory <;> exact hmade
    · rw [hrun] at hmade
      exact hmade

end Below

theorem made_makeDirectories (h : ".." ∉ path.names) (volume : Volume) :
    volume.Made (volume.placeOf path) ((makeDirectories path).runOn volume).2 := by
  have hpath : (⟨path.root, []⟩ : Path).append ⟨"", path.names⟩ = path := by
    simp [Path.append]
  have hstart : volume.Leads ⟨path.root, []⟩ (volume.start path) := rfl
  have hroot : (⟨"", path.names⟩ : Path).root = "" := rfl
  have hmade := made_makeDirectoriesFrom hstart hroot h path.names.length
  rw [hpath] at hmade
  exact hmade

/-- Nothing has to be made where a directory is. -/
theorem runOn_makeDirectories_of_isDirectory {volume : Volume}
    (h : (volume.entryAt? path).any Tree.isDirectory = true) :
    (makeDirectories path).runOn volume = (.ok (), volume) := by
  obtain ⟨place, entry, hlocate, hentry⟩ : ∃ place entry, volume.locate path = .ok place ∧
      volume.tree.find? place = some entry := by
    rw [Volume.entryAt?] at h
    cases hlocate : volume.locate path with
    | error kind => simp [hlocate, Except.toOption] at h
    | ok place =>
      cases hentry : volume.tree.find? place with
      | none => simp [hlocate, hentry, Except.toOption] at h
      | some entry => exact ⟨place, entry, rfl, hentry⟩
  rcases runOn_makeDirectory path volume with ⟨failure, hrun⟩ | ⟨found, hfound, hnew, -⟩
  · have hmissing : isMissing failure = false := by
      by_contra hmissing
      rw [Bool.not_eq_false] at hmissing
      rw [locate_eq_of_isMissing hrun hmissing] at hlocate
      cases hlocate
    unfold makeDirectories
    cases path.names.length with
    | zero => simp [makeDirectoriesFrom, ensureDirectory, runOn_tryCatch, hrun, runOn_bind, h]
    | succ fuel => simp [makeDirectoriesFrom, runOn_tryCatch, hrun, hmissing, runOn_bind, h]
  · rw [hlocate, Except.ok.injEq] at hfound
    rw [← hfound, hentry] at hnew
    cases hnew

end Disk

end ApiCompiler.Files
