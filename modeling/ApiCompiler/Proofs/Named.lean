import ApiCompiler.Named
import Mathlib.Data.List.Forall2
import Mathlib.Data.List.Nodup

/-!
# Laws of named collections

Looking up after `put` and after leaving a name out, and the names that a collection has. Lists that
are related item by item have related members.
-/

namespace ApiCompiler

/-- Where keys are distinct, a member is found by its key. -/
theorem find?_key_of_mem {α : Type} {key : α → String} {members : List α}
    (h : (members.map key).Nodup) {a : α} (ha : a ∈ members) :
    members.find? (fun b ↦ key b == key a) = some a := by
  cases hfound : members.find? (fun b ↦ key b == key a) with
  | none =>
    have hnone := List.find?_eq_none.mp hfound a ha
    simp at hnone
  | some b =>
    have hkey : key b = key a := by simpa using List.find?_some hfound
    rw [List.inj_on_of_nodup_map h (List.mem_of_find?_eq_some hfound) ha hkey]

/-- Where keys are distinct, the last member of a key is the only one. -/
theorem find?_reverse_key_of_mem {α : Type} {key : α → String} {members : List α}
    (h : (members.map key).Nodup) {a : α} (ha : a ∈ members) :
    members.reverse.find? (fun b ↦ key b == key a) = some a := by
  have hreverse : (members.reverse.map key).Nodup := by
    rw [List.map_reverse]
    exact List.nodup_reverse.mpr h
  exact find?_key_of_mem hreverse (List.mem_reverse.mpr ha)

/-! ## Lists related item by item -/

theorem map_eq_map_of_forall₂ {α β γ : Type} {R : α → β → Prop} {f : α → γ} {g : β → γ}
    (hR : ∀ a b, R a b → g b = f a) {as : List α} {bs : List β} (h : List.Forall₂ R as bs) :
    bs.map g = as.map f := by
  induction h with
  | nil => rfl
  | cons hfirst _ ih => rw [List.map_cons, List.map_cons, hR _ _ hfirst, ih]

theorem exists_mem_of_forall₂ {α β : Type} {R : α → β → Prop} {as : List α} {bs : List β}
    (h : List.Forall₂ R as bs) {b : β} (hb : b ∈ bs) : ∃ a ∈ as, R a b := by
  induction h with
  | nil => simp at hb
  | cons hfirst _ ih =>
    rcases List.mem_cons.mp hb with rfl | hb
    · exact ⟨_, List.mem_cons_self .., hfirst⟩
    · obtain ⟨a, ha, hR⟩ := ih hb
      exact ⟨a, List.mem_cons_of_mem _ ha, hR⟩

namespace Named

variable {α β : Type}

@[simp] theorem names_cons (entry : String × α) (rest : Named α) :
    names (entry :: rest) = entry.1 :: names rest :=
  rfl

theorem find?_cons (n name : String) (value : α) (rest : Named α) :
    Named.find? ((n, value) :: rest) name = if name = n then some value else rest.find? name := by
  rw [find?, List.lookup_cons]
  by_cases h : name = n
  · simp [h]
  · have hbeq : (name == n) = false := by simpa using h
    rw [hbeq, if_neg h]
    rfl

/-- The first member with a key is related to the entry that is found under the key. -/
theorem exists_find?_of_forall₂ {key : α → String} {R : α → String × β → Prop}
    (hR : ∀ a entry, R a entry → entry.1 = key a) {members : List α} {entries : Named β}
    (h : List.Forall₂ R members entries) {name : String} {a : α}
    (ha : members.find? (fun b ↦ key b == name) = some a) :
    ∃ value, R a (name, value) ∧ entries.find? name = some value := by
  induction h with
  | nil => cases ha
  | @cons b entry _ _ hfirst _ ih =>
    obtain ⟨n, value⟩ := entry
    obtain rfl : n = key b := hR _ _ hfirst
    rw [List.find?_cons] at ha
    rw [find?_cons]
    by_cases hname : name = key b
    · rw [hname, beq_self_eq_true] at ha
      obtain rfl : b = a := Option.some.inj ha
      rw [hname]
      exact ⟨value, hfirst, if_pos rfl⟩
    · rw [beq_eq_false_iff_ne.mpr (Ne.symm hname)] at ha
      rw [if_neg hname]
      exact ih ha

theorem find?_put (entries : Named α) (name other : String) (value : α) :
    (entries.put name value).find? other =
      if other = name then some value else entries.find? other := by
  induction entries with
  | nil => rw [put, find?_cons]
  | cons entry rest ih =>
    obtain ⟨n, v⟩ := entry
    rw [put]
    by_cases hn : n = name
    · subst hn
      simp only [beq_self_eq_true, if_true, find?_cons]
      split <;> rfl
    · have hbeq : (n == name) = false := by simpa using hn
      simp only [hbeq, Bool.false_eq_true, if_false, find?_cons, ih]
      by_cases hother : other = n
      · simp [hother, hn]
      · simp [hother]

theorem find?_eq_none_iff {entries : Named α} {name : String} :
    entries.find? name = none ↔ name ∉ entries.names := by
  induction entries with
  | nil => simp [find?, names]
  | cons entry rest ih =>
    obtain ⟨n, v⟩ := entry
    rw [find?_cons, names_cons, List.mem_cons, not_or]
    by_cases h : name = n
    · simp [h]
    · rw [if_neg h, ih]
      exact ⟨fun hrest ↦ ⟨h, hrest⟩, fun hboth ↦ hboth.2⟩

theorem exists_find?_of_mem {entries : Named α} {name : String} (h : name ∈ entries.names) :
    ∃ value, entries.find? name = some value := by
  rw [← Option.ne_none_iff_exists']
  exact fun hnone ↦ find?_eq_none_iff.mp hnone h

theorem mem_of_find? {entries : Named α} {name : String} {value : α}
    (h : entries.find? name = some value) : (name, value) ∈ entries := by
  induction entries with
  | nil => simp [find?] at h
  | cons entry rest ih =>
    obtain ⟨n, v⟩ := entry
    rw [find?_cons] at h
    split at h
    · next hname =>
      cases h
      simp [hname]
    · exact List.mem_cons_of_mem _ (ih h)

/-- Where names are distinct, an entry is found under its name. -/
theorem find?_of_mem {entries : Named α} (h : entries.names.Nodup) {name : String} {value : α}
    (hmem : (name, value) ∈ entries) : entries.find? name = some value := by
  induction entries with
  | nil => simp at hmem
  | cons entry rest ih =>
    obtain ⟨n, v⟩ := entry
    rw [names_cons, List.nodup_cons] at h
    rw [find?_cons]
    rcases List.mem_cons.mp hmem with heq | hmem
    · cases heq
      exact if_pos rfl
    · have hne : name ≠ n := fun heq ↦ h.1 (heq ▸ List.mem_map.mpr ⟨_, hmem, rfl⟩)
      rw [if_neg hne]
      exact ih h.2 hmem

/-- What is found stays when further entries come behind. -/
theorem find?_of_isPrefix {entries others : Named α} (h : entries <+: others) {name : String}
    {value : α} (hfound : entries.find? name = some value) : others.find? name = some value := by
  obtain ⟨more, rfl⟩ := h
  rw [find?] at hfound
  rw [find?, List.lookup_append, hfound, Option.some_or]

/-- Where values are distinct, a value stands under one name only. -/
theorem eq_of_find?_eq {entries : Named α} (h : (entries.map Prod.snd).Nodup)
    {name other : String} {value : α} (hname : entries.find? name = some value)
    (hother : entries.find? other = some value) : name = other :=
  congrArg Prod.fst
    (List.inj_on_of_nodup_map h (mem_of_find? hname) (mem_of_find? hother) rfl)

theorem has_eq_true_iff {entries : Named α} {name : String} :
    entries.has name = true ↔ name ∈ entries.names := by
  simp [has, names]

theorem has_eq_contains (entries : Named α) (name : String) :
    entries.has name = entries.names.contains name := by
  rw [Bool.eq_iff_iff, has_eq_true_iff, List.contains_iff_mem]

theorem mem_of_mem_put {entries : Named α} {name : String} {value : α} {entry : String × α}
    (h : entry ∈ entries.put name value) : entry = (name, value) ∨ entry ∈ entries := by
  induction entries with
  | nil => exact .inl (by simpa [put] using h)
  | cons first rest ih =>
    rw [put] at h
    split at h
    · next hname =>
      rcases List.mem_cons.mp h with rfl | h
      · exact .inl (by simpa using hname)
      · exact .inr (List.mem_cons_of_mem _ h)
    · rcases List.mem_cons.mp h with rfl | h
      · exact .inr (List.mem_cons_self ..)
      · exact (ih h).imp_right (List.mem_cons_of_mem _)

theorem mem_of_mem_ofPairs {pairs : List (String × α)} {entry : String × α}
    (h : entry ∈ ofPairs pairs) : entry ∈ pairs := by
  have hfold : ∀ (pairs : List (String × α)) (start : Named α),
      entry ∈ pairs.foldl (fun entries pair ↦ entries.put pair.1 pair.2) start →
        entry ∈ pairs ∨ entry ∈ start := by
    intro pairs
    induction pairs with
    | nil => exact fun _ ↦ .inr
    | cons pair rest ih =>
      intro start hmem
      rcases ih _ hmem with hrest | hput
      · exact .inl (List.mem_cons_of_mem _ hrest)
      · rcases mem_of_mem_put hput with rfl | hstart
        · exact .inl (List.mem_cons_self ..)
        · exact .inr hstart
  exact (hfold pairs [] h).resolve_right List.not_mem_nil

theorem map_put (f : α → β) (entries : Named α) (name : String) (value : α) :
    (entries.put name value).map (Prod.map id f) =
      Named.put (entries.map (Prod.map id f)) name (f value) := by
  induction entries with
  | nil => rfl
  | cons entry rest ih =>
    obtain ⟨n, v⟩ := entry
    rw [put, List.map_cons, Prod.map_apply, id_eq, put]
    split
    · rfl
    · rw [List.map_cons, ih, Prod.map_apply, id_eq]

/-- What is done to every value can be done before the values are put under their names. -/
theorem map_ofPairs (f : α → β) (pairs : List (String × α)) :
    (ofPairs pairs).map (Prod.map id f) = ofPairs (pairs.map (Prod.map id f)) := by
  have hfold : ∀ (pairs : List (String × α)) (start : Named α),
      (pairs.foldl (fun entries pair ↦ entries.put pair.1 pair.2) start).map (Prod.map id f) =
        (pairs.map (Prod.map id f)).foldl (fun entries pair ↦ put entries pair.1 pair.2)
          (start.map (Prod.map id f)) := by
    intro pairs
    induction pairs with
    | nil => exact fun _ ↦ rfl
    | cons pair rest ih =>
      intro start
      rw [List.foldl_cons, List.map_cons, List.foldl_cons, ih, map_put]
      rfl
  exact hfold pairs []

theorem put_put (entries : Named α) (name : String) (a b : α) :
    (entries.put name a).put name b = entries.put name b := by
  induction entries with
  | nil => simp [put]
  | cons entry rest ih =>
    obtain ⟨n, v⟩ := entry
    by_cases h : n = name
    · simp [put, h]
    · simp [put, h, ih]

theorem put_of_find? {entries : Named α} {name : String} {a : α}
    (h : entries.find? name = some a) : entries.put name a = entries := by
  induction entries with
  | nil => simp [find?] at h
  | cons entry rest ih =>
    obtain ⟨n, v⟩ := entry
    rw [find?_cons] at h
    by_cases hn : n = name
    · obtain rfl : v = a := by simpa [hn] using h
      simp [put, hn]
    · rw [if_neg (Ne.symm hn)] at h
      simp [put, hn, ih h]

theorem put_of_not_mem {entries : Named α} {name : String} (h : name ∉ entries.names) (a : α) :
    entries.put name a = entries ++ [(name, a)] := by
  induction entries with
  | nil => rfl
  | cons entry rest ih =>
    rw [names_cons, List.mem_cons, not_or] at h
    rw [put, if_neg (by simpa using Ne.symm h.1), ih h.2, List.cons_append]

theorem names_put_of_mem {entries : Named α} {name : String} (h : name ∈ entries.names) (a : α) :
    (entries.put name a).names = entries.names := by
  induction entries with
  | nil => simp [names] at h
  | cons entry rest ih =>
    obtain ⟨n, v⟩ := entry
    rw [put]
    split
    · rfl
    · next hne =>
      have hrest : name ∈ names rest :=
        (List.mem_cons.mp h).resolve_left fun heq ↦ hne (by simp [heq])
      rw [names_cons, names_cons, ih hrest]

/-- Setting the value under a name keeps the names distinct. -/
theorem names_put_nodup {entries : Named α} (h : entries.names.Nodup) (name : String) (a : α) :
    (entries.put name a).names.Nodup := by
  by_cases hmem : name ∈ entries.names
  · rwa [names_put_of_mem hmem]
  · rw [put_of_not_mem hmem, names, List.map_append, List.map_singleton, ← List.concat_eq_append]
    exact h.concat hmem

/-- Pairs of distinct names are a collection as they are. -/
theorem ofPairs_of_nodup {pairs : List (String × α)} (h : (pairs.map Prod.fst).Nodup) :
    ofPairs pairs = pairs := by
  have hfold (pairs : List (String × α)) (start : Named α)
      (h : ((start ++ pairs).map Prod.fst).Nodup) :
      pairs.foldl (fun entries pair ↦ entries.put pair.1 pair.2) start = start ++ pairs := by
    induction pairs generalizing start with
    | nil => rw [List.foldl_nil, List.append_nil]
    | cons pair rest ih =>
      have hfresh : pair.1 ∉ names start := by
        rw [List.map_append, List.nodup_append] at h
        exact fun hmem ↦ h.2.2 _ hmem _ (by simp) rfl
      have hsplit : start ++ pair :: rest = start ++ [pair] ++ rest := by simp
      rw [List.foldl_cons, put_of_not_mem hfresh, hsplit]
      exact ih _ (hsplit ▸ h)
  exact hfold pairs [] h

/-- The entries of the other names. -/
def without (entries : Named α) (name : String) : Named α :=
  entries.filter fun entry ↦ entry.1 != name

theorem find?_without (entries : Named α) (name other : String) :
    (entries.without name).find? other = if other = name then none else entries.find? other := by
  induction entries with
  | nil => simp [without, find?]
  | cons entry rest ih =>
    obtain ⟨n, v⟩ := entry
    rw [without, List.filter_cons]
    by_cases hn : n = name
    · simp only [hn, bne_self_eq_false, Bool.false_eq_true, if_false]
      rw [← without, ih, find?_cons]
      split <;> rfl
    · have hbne : (n != name) = true := by simpa using hn
      simp only [hbne, if_true]
      rw [← without, find?_cons, find?_cons, ih]
      by_cases hother : other = n
      · simp [hother, hn]
      · simp [hother]

/-- Setting an entry of a new name and removing it again changes nothing. -/
theorem without_put {entries : Named α} {name : String} (h : entries.find? name = none) (a : α) :
    (entries.put name a).without name = entries := by
  induction entries with
  | nil => simp [put, without]
  | cons entry rest ih =>
    obtain ⟨n, v⟩ := entry
    rw [find?_cons] at h
    by_cases hn : name = n
    · simp [hn] at h
    · rw [if_neg hn] at h
      have hne : ¬ n = name := fun heq ↦ hn heq.symm
      have hrest := ih h
      rw [without] at hrest ⊢
      simp [put, hne, hrest]

end Named

end ApiCompiler
