import ApiCompiler.Value

/-!
# Laws of mappings

What stands under a textual key after something has been put or removed under another one, and after
everything has been changed in its place.
-/

namespace ApiCompiler.Value

/-- Only a text equals a text. -/
theorem equals_text_iff {v : Value} {s : String} : v.equals (.text s) = true ↔ v = .text s := by
  cases v <;> simp [equals, equalsAtom, integer?]

namespace Keyed

variable {α β : Type} {entries : Keyed α} {name other : String}

theorem keyIs_iff {key : Value} : keyIs name key = true ↔ key = .text name := by
  cases key <;> simp [keyIs]

@[simp] theorem keyIs_text : keyIs name (.text other) = (other == name) :=
  rfl

theorem get?_nil : get? ([] : Keyed α) name = none :=
  rfl

theorem get?_cons (entry : Value × α) (rest : Keyed α) (name : String) :
    get? (entry :: rest) name = if keyIs name entry.1 then some entry.2 else get? rest name := by
  rw [get?, List.find?_cons]
  cases keyIs name entry.1 <;> rfl

theorem has_eq_isSome (entries : Keyed α) (name : String) :
    entries.has name = (entries.get? name).isSome :=
  rfl

/-- What stands under a key after all values have been changed in their places. -/
theorem get?_map {f : Value × α → Value × β} (hf : ∀ entry, (f entry).1 = entry.1)
    (entries : Keyed α) (name : String) :
    get? (entries.map f) name =
      (List.find? (fun entry ↦ keyIs name entry.1) entries).map fun entry ↦ (f entry).2 := by
  have hkey : (fun entry : Value × β ↦ keyIs name entry.1) ∘ f =
      fun entry ↦ keyIs name entry.1 := by
    funext entry
    rw [Function.comp_apply, hf]
  rw [get?, List.find?_map, hkey, Option.map_map]
  rfl

theorem equals_text_eq_keyIs (key : Value) (name : String) :
    key.equals (.text name) = keyIs name key := by
  rw [Bool.eq_iff_iff, equals_text_iff, keyIs_iff]

theorem get?_putText (entries : Keyed α) (name other : String) (a : α) :
    (entries.putText name a).get? other = if other = name then some a else entries.get? other := by
  simp only [putText, put, equals_text_eq_keyIs]
  split
  · next hany =>
    rw [get?_map (fun entry ↦ by split <;> rfl), get?]
    cases hfound : List.find? (fun entry ↦ keyIs other entry.1) entries with
    | none =>
      have hne : other ≠ name := by
        rintro rfl
        obtain ⟨entry, hentry, hkey⟩ := List.any_eq_true.mp hany
        exact List.find?_eq_none.mp hfound entry hentry hkey
      simp [hne]
    | some entry =>
      have hfoundKey : keyIs other entry.1 = true := by simpa using List.find?_some hfound
      have hkey := keyIs_iff.mp hfoundKey
      rw [Option.map_some, Option.map_some, hkey, keyIs_text]
      by_cases hname : other = name <;> simp [hname]
  · next hany =>
    have hnone : get? entries name = none := by
      rw [get?, Option.map_eq_none_iff, List.find?_eq_none]
      simpa using hany
    rw [get?, List.find?_append]
    by_cases hname : other = name
    · subst hname
      rw [get?, Option.map_eq_none_iff] at hnone
      simp [hnone]
    · simp [hname, Ne.symm hname, get?]

/-- What stands in entries after something has been put among them: what has been put, under its
key, and what stood there before under the other keys. -/
theorem mem_putText_cases {entry : Value × α} {a : α} (h : entry ∈ entries.putText name a) :
    keyIs name entry.1 = true ∧ entry.2 = a ∨ keyIs name entry.1 = false ∧ entry ∈ entries := by
  simp only [putText, put, equals_text_eq_keyIs] at h
  split at h
  · obtain ⟨before, hbefore, rfl⟩ := List.mem_map.mp h
    cases hkey : keyIs name before.1 with
    | true => exact .inl ⟨by simpa using hkey, by simp⟩
    | false => exact .inr ⟨by simpa using hkey, by simpa using hbefore⟩
  · next hany =>
    rcases List.mem_append.mp h with h | h
    · have hnone : ∀ entry ∈ entries, keyIs name entry.1 = false := by simpa using hany
      exact .inr ⟨hnone entry h, h⟩
    · rw [List.mem_singleton.mp h]
      exact .inl ⟨by simp, rfl⟩

theorem mem_putText {entry : Value × α} {a : α} (h : entry ∈ entries.putText name a) :
    entry ∈ entries ∨ entry.2 = a :=
  (mem_putText_cases h).elim (fun hput ↦ .inr hput.2) fun hkept ↦ .inl hkept.2

/-! ## Keys that hold a value -/

/-- Entries in which a key is present and holds one value wherever it stands. -/
def Holds (entries : Keyed α) (name : String) (a : α) : Prop :=
  entries.has name = true ∧ ∀ entry ∈ entries, keyIs name entry.1 = true → entry.2 = a

theorem holds_putText (entries : Keyed α) (name : String) (a : α) :
    Holds (entries.putText name a) name a := by
  refine ⟨by rw [has_eq_isSome, get?_putText, if_pos rfl]; rfl, fun entry hentry hkey ↦ ?_⟩
  rcases mem_putText_cases hentry with ⟨-, hput⟩ | ⟨hother, -⟩
  · exact hput
  · exact absurd hkey (by simp [hother])

/-- Putting something under another key leaves what a key holds. -/
theorem Holds.putText_of_ne {a : α} (h : Holds entries name a) (hne : name ≠ other) (b : α) :
    Holds (entries.putText other b) name a := by
  refine ⟨by rw [has_eq_isSome, get?_putText, if_neg hne]; exact h.1, fun entry hentry hkey ↦ ?_⟩
  rcases mem_putText_cases hentry with ⟨hother, -⟩ | ⟨-, hkept⟩
  · rw [keyIs_iff.mp hkey, keyIs_text, beq_iff_eq] at hother
    exact absurd hother hne
  · exact h.2 entry hkept hkey

/-- Putting what a key holds already changes nothing. -/
theorem Holds.putText_eq {a : α} (h : Holds entries name a) : entries.putText name a = entries := by
  have hany : entries.any (fun entry ↦ keyIs name entry.1) = true := by
    rw [List.any_eq_true, ← List.find?_isSome, ← Option.isSome_map]
    exact h.1
  simp only [putText, put, equals_text_eq_keyIs, hany, if_true]
  refine (List.map_congr_left fun entry hentry ↦ ?_).trans (List.map_id entries)
  split
  · next hkey => rw [← h.2 entry hentry hkey, id_eq]
  · rfl

theorem Holds.get?_eq {a : α} (h : Holds entries name a) : entries.get? name = some a := by
  obtain ⟨hhas, hall⟩ := h
  rw [has_eq_isSome, get?, Option.isSome_map, Option.isSome_iff_exists] at hhas
  obtain ⟨entry, hentry⟩ := hhas
  have hkey : keyIs name entry.1 = true := by simpa using List.find?_some hentry
  rw [get?, hentry, Option.map_some, hall entry (List.mem_of_find?_eq_some hentry) hkey]

theorem get?_remove (entries : Keyed α) (name other : String) :
    (entries.remove name).get? other = if other = name then none else entries.get? other := by
  induction entries with
  | nil => simp [remove, get?_nil]
  | cons entry rest ih =>
    rw [remove] at ih
    rw [remove, List.filter_cons, get?_cons]
    cases hkey : keyIs name entry.1 with
    | true =>
      rw [Bool.not_true, if_neg Bool.false_ne_true, ih, keyIs_iff.mp hkey, keyIs_text]
      by_cases hname : other = name
      · simp [hname]
      · simp [hname, Ne.symm hname]
    | false =>
      rw [Bool.not_false, if_pos rfl, get?_cons, ih]
      by_cases hname : other = name
      · simp [hname, hkey]
      · simp [hname]

theorem get?_foldl_remove (keys : List String) (entries : Keyed α) (other : String) :
    (keys.foldl remove entries).get? other = if other ∈ keys then none else entries.get? other := by
  induction keys generalizing entries with
  | nil => simp
  | cons key rest ih =>
    rw [List.foldl_cons, ih, get?_remove]
    by_cases hkey : other = key
    · simp [hkey]
    · simp [hkey]

end Keyed

end ApiCompiler.Value
