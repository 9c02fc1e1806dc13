import ApiCompiler.CommandLine
import Mathlib.Order.Basic

/-!
# How the reading of a command line ends

The time limit comes from a variable of the environment or from an option. The variable must hold a
positive number, and anything else in it is a fault of usage. The option must only hold a number, so
a limit of zero is accepted there; a text that is no number is a fault of usage.

Two environments whose variable is fine treat the same arguments alike (`alike_read`): the words
that are read, the faults in them and the texts for the time limit are the same, and only the
settings that remain differ. So what arguments ask for can be told without an environment, and the
last text for the time limit decides whether the limit of an accepted command line is positive
(`read_endsWell_iff`). The help is the other thing that depends on the environment: it shows the
settings, and a placeholder in them may be one that nothing fills.
-/

namespace ApiCompiler.CommandLine

/-! ## Texts for the time limit -/

/-- A text for a positive number. -/
def IsPositive (text : String) : Prop :=
  (Text.readFloat? text).any Binary64.isPositive = true

instance (text : String) : Decidable (IsPositive text) :=
  inferInstanceAs (Decidable (_ = true))

/-- The texts that words give for the time limit, in order. -/
def limitTexts : List Word → List String
  | [] => []
  | .option .timeout _ (some text) :: rest => text :: limitTexts rest
  | .option .timeout _ none :: .plain text :: rest => text :: limitTexts rest
  | _ :: rest => limitTexts rest

/-- The time limit of an invocation, unless its option has no value. -/
def Invocation.limit? (invocation : Invocation) : Option Binary64 :=
  invocation.valueOf .timeout invocation.config.timeout

/-- One invocation comes from another by texts for the time limit: the last one is its limit, and
each of them is a number or the separator. -/
structure Gives (texts : List String) (before after : Invocation) : Prop where
  limit_eq : after.limit? = texts.foldl (fun _ text ↦ Text.readFloat? text) before.limit?
  isNumber : ∀ text ∈ texts, text = "--" ∨ (Text.readFloat? text).isSome = true

theorem Gives.refl {before after : Invocation} (h : after.limit? = before.limit?) :
    Gives [] before after :=
  ⟨h, by simp⟩

theorem Gives.trans {texts others : List String} {before middle after : Invocation}
    (h : Gives texts before middle) (hrest : Gives others middle after) :
    Gives (texts ++ others) before after where
  limit_eq := by rw [hrest.limit_eq, h.limit_eq, List.foldl_append]
  isNumber := List.forall_mem_append.mpr ⟨h.isNumber, hrest.isNumber⟩

theorem limit?_congr {first second : Invocation}
    (hemptied : second.emptied.contains .timeout = first.emptied.contains .timeout)
    (htimeout : second.config.timeout = first.config.timeout) : second.limit? = first.limit? := by
  rw [Invocation.limit?, Invocation.limit?, Invocation.valueOf, Invocation.valueOf, hemptied,
    htimeout]

theorem contains_filter_of_ne {flag : Flag} (h : flag ≠ .timeout) (emptied : List Flag) :
    (emptied.filter (· != flag)).contains .timeout = emptied.contains .timeout := by
  rw [Bool.eq_iff_iff]
  simp [h.symm]

/-! ## Two readings of one command line -/

/-- What asking for help ends with. -/
def helpStop (defaults : Config) : Stop :=
  match help defaults with
  | .ok text => .help text
  | .error fault => .helpText fault

section Alike

variable {defaults others : Config} {α β γ δ : Type}

/-- Two readings with defaults of their own that end alike: both are asked for the help, both meet
one fault, or their results are related. -/
inductive Alike (defaults others : Config) (r : α → β → Prop) :
    Except Stop α → Except Stop β → Prop
  | help : Alike defaults others r (.error (helpStop defaults)) (.error (helpStop others))
  | fault (fault : UsageFault) :
    Alike defaults others r (.error (.fault fault)) (.error (.fault fault))
  | ok {a : α} {b : β} (h : r a b) : Alike defaults others r (.ok a) (.ok b)

theorem Alike.bind {r : α → β → Prop} {q : γ → δ → Prop} {x : Except Stop α} {y : Except Stop β}
    {f : α → Except Stop γ} {g : β → Except Stop δ} (h : Alike defaults others r x y)
    (hnext : ∀ a b, r a b → Alike defaults others q (f a) (g b)) :
    Alike defaults others q (x >>= f) (y >>= g) := by
  cases h with
  | help => exact .help
  | fault fault => exact .fault fault
  | ok h => exact hnext _ _ h

theorem Alike.imp {r q : α → β → Prop} {x : Except Stop α} {y : Except Stop β}
    (h : Alike defaults others r x y) (himp : ∀ a b, r a b → q a b) :
    Alike defaults others q x y := by
  cases h with
  | help => exact .help
  | fault fault => exact .fault fault
  | ok h => exact .ok (himp _ _ h)

/-- How two readings of the same words relate: in one of them texts for the time limit lead from the
first invocation to the last, and both find the same texts that belong to no option. -/
def ReadsAlike (texts : List String) (first : Invocation)
    (result other : Invocation × List String) : Prop :=
  Gives texts first result.1 ∧ result.2 = other.2

theorem Alike.keepText {texts : List String} {first : Invocation}
    {x y : Except Stop (Invocation × List String)}
    (h : Alike defaults others (ReadsAlike texts first) x y) (text : String) :
    Alike defaults others (ReadsAlike texts first)
      (x >>= fun result ↦ return (result.1, text :: result.2))
      (y >>= fun result ↦ return (result.1, text :: result.2)) :=
  h.bind fun _ _ hread ↦ .ok ⟨hread.1, congrArg (text :: ·) hread.2⟩

theorem Alike.trans_gives {texts more : List String} {first middle : Invocation}
    {x y : Except Stop (Invocation × List String)} (hfirst : Gives texts first middle)
    (h : Alike defaults others (ReadsAlike more middle) x y) :
    Alike defaults others (ReadsAlike (texts ++ more) first) x y :=
  h.imp fun _ _ hread ↦ ⟨hfirst.trans hread.1, hread.2⟩

theorem alike_orStop (x : Except UsageFault α) :
    Alike defaults others (fun a b ↦ x = .ok a ∧ a = b) (orStop x) (orStop x) := by
  cases x with
  | ok a => exact .ok ⟨rfl, rfl⟩
  | error fault => exact .fault fault

variable (defaults others)

theorem alike_setValue (first second : Invocation) (flag : Flag) (value : String) :
    Alike defaults others
      (fun invocation _ ↦ Gives (if flag = .timeout then [value] else []) first invocation)
      (setValue first flag value) (setValue second flag value) := by
  by_cases hvalue : value = "--"
  · -- the separator is no value, and it reads as no number either
    subst hvalue
    refine .ok ?_
    by_cases hflag : flag = .timeout
    · subst hflag
      have hunread : Text.readFloat? "--" = none := by decide
      refine ⟨?_, by simp⟩
      simp [Invocation.limit?, Invocation.valueOf, hunread]
    · rw [if_neg hflag]
      refine .refl (limit?_congr ?_ rfl)
      have hne : (Flag.timeout == flag) = false := beq_eq_false_iff_ne.mpr (Ne.symm hflag)
      rw [List.contains_cons, hne, Bool.false_or, contains_filter_of_ne hflag]
  · have hvalue : (value == "--") = false := beq_eq_false_iff_ne.mpr hvalue
    have hkept (hflag : flag ≠ .timeout) := contains_filter_of_ne hflag first.emptied
    unfold setValue
    simp only [hvalue, Bool.false_eq_true, if_false]
    cases flag with
    | timeout =>
      cases hread : Text.readFloat? value with
      | none => exact .fault _
      | some limit =>
        refine .ok ⟨?_, by simp [hread]⟩
        simp [Invocation.limit?, Invocation.valueOf, hread]
    | output | name | url | help | verbose =>
      exact .ok (.refl (limit?_congr (hkept (by decide)) rfl))

theorem alike_setSwitch (first second : Invocation) (flag : Flag) :
    Alike defaults others (fun invocation _ ↦ Gives [] first invocation)
      (setSwitch defaults first flag) (setSwitch others second flag) := by
  have hkept : Gives [] first first := .refl rfl
  cases flag with
  | help =>
    have hstop (defaults : Config) (invocation : Invocation) :
        setSwitch defaults invocation .help = .error (helpStop defaults) := by
      rw [setSwitch, helpStop]
      cases help defaults <;> rfl
    rw [hstop, hstop]
    exact .help
  | verbose => exact .ok (.refl rfl)
  | output | name | url | timeout => exact .ok hkept

theorem alike_setAll_none (flags : List Flag) (first second : Invocation) :
    Alike defaults others (fun invocation _ ↦ Gives [] first invocation)
      (setAll defaults none flags first) (setAll others none flags second) := by
  induction flags generalizing first second with
  | nil => exact .ok (.refl rfl)
  | cons flag rest ih =>
    cases rest with
    | nil => exact alike_setSwitch defaults others first second flag
    | cons next rest =>
      apply (alike_setSwitch defaults others first second flag).bind
      intro a b hswitch
      exact (ih a b).imp fun _ _ hrest ↦ hswitch.trans hrest

/-- The letters that share a dash are options without a value. -/
theorem value?_eq_none_of_ofSpelling? {letter : Char} {flag : Flag}
    (h : Flag.ofSpelling? (String.ofList ['-', letter]) = some flag) : flag.value? = none := by
  have hshort : ∀ entry ∈ Flag.spelled, entry.1.length = 2 → entry.2.value? = none := by decide
  have hmem : (String.ofList ['-', letter], flag) ∈ Flag.spelled := by
    obtain ⟨before, after, hspelled, -⟩ := List.lookup_eq_some_iff.mp h
    rw [hspelled]
    simp
  exact hshort _ hmem (String.length_ofList)

theorem value_eq_none_of_sharedFlags {letters : List Char} {flag : Flag} {flags : List Flag}
    {value : Option String} (hflag : flag.value? = none)
    (h : sharedFlags flag letters = .ok (flags, value)) : value = none := by
  induction letters generalizing flag flags value with
  | nil =>
    rw [sharedFlags, Except.ok.injEq, Prod.mk.injEq] at h
    exact h.2.symm
  | cons letter rest ih =>
    rw [sharedFlags, if_neg (by simp [hflag])] at h
    cases hnext : Flag.ofSpelling? (String.ofList ['-', letter]) with
    | none =>
      rw [hnext] at h
      contradiction
    | some next =>
      simp only [hnext] at h
      cases hrest : sharedFlags next rest with
      | error fault =>
        rw [hrest] at h
        contradiction
      | ok result =>
        rw [hrest] at h
        have hresult : (flag :: result.1, result.2) = (flags, value) := Except.ok.inj h
        calc
          value = result.2 := (congrArg Prod.snd hresult).symm
          _ = none := ih (value?_eq_none_of_ofSpelling? hnext) hrest

/-- A value that is attached to an option is its value, or there are only options without one. -/
theorem attached_eq_ok {flag : Flag} {spelling text : String} {flags : List Flag}
    {value : Option String} (h : attached flag spelling text = .ok (flags, value)) :
    flags = [flag] ∧ value = some text ∨ flag ≠ .timeout ∧ value = none := by
  by_cases hflag : flag.value?.isSome
  · rw [attached, if_pos hflag, Except.ok.injEq, Prod.mk.injEq] at h
    exact .inl ⟨h.1.symm, h.2.symm⟩
  · rw [attached, if_neg hflag] at h
    split at h
    · contradiction
    · refine .inr ⟨?_, value_eq_none_of_sharedFlags (Option.not_isSome_iff_eq_none.mp hflag) h⟩
      rintro rfl
      exact hflag rfl

theorem alike_setAll {flag : Flag} {spelling text : String} {flags : List Flag}
    {value : Option String} (h : attached flag spelling text = .ok (flags, value))
    (first second : Invocation) :
    Alike defaults others
      (fun invocation _ ↦ Gives (if flag = .timeout then [text] else []) first invocation)
      (setAll defaults value flags first) (setAll others value flags second) := by
  obtain ⟨rfl, rfl⟩ | ⟨hflag, rfl⟩ := attached_eq_ok h
  · exact alike_setValue defaults others first second flag text
  · rw [if_neg hflag]
    exact alike_setAll_none defaults others flags first second

theorem limitTexts_option_some (flag : Flag) (spelling text : String) (rest : List Word) :
    limitTexts (.option flag spelling (some text) :: rest) =
      (if flag = .timeout then [text] else []) ++ limitTexts rest := by
  cases flag <;> rfl

theorem limitTexts_option_plain (flag : Flag) (spelling text : String) (rest : List Word) :
    limitTexts (.option flag spelling none :: .plain text :: rest) =
      (if flag = .timeout then [text] else []) ++ limitTexts rest := by
  cases flag <;> rfl

theorem limitTexts_option_none {flag : Flag} (hflag : flag ≠ .timeout) (spelling : String)
    (rest : List Word) : limitTexts (.option flag spelling none :: rest) = limitTexts rest := by
  cases flag <;> first | rfl | contradiction

theorem readWords_option_some (flag : Flag) (spelling text : String) (rest : List Word)
    (invocation : Invocation) :
    readWords defaults (.option flag spelling (some text) :: rest) invocation = (do
      let (flags, value) ← orStop (attached flag spelling text)
      readWords defaults rest (← setAll defaults value flags invocation)) :=
  rfl

/-- An option with a value takes the word behind it. -/
theorem readWords_option_plain {flag : Flag} (hflag : flag.value?.isSome) (spelling text : String)
    (rest : List Word) (invocation : Invocation) :
    readWords defaults (.option flag spelling none :: .plain text :: rest) invocation =
      setValue invocation flag text >>= readWords defaults rest :=
  if_pos hflag

/-- Any other word behind it is no value. -/
theorem readWords_option_missing {flag : Flag} (hflag : flag.value?.isSome) (spelling : String)
    {rest : List Word} (hrest : ∀ text others, rest ≠ .plain text :: others)
    (invocation : Invocation) :
    readWords defaults (.option flag spelling none :: rest) invocation =
      .error (.fault (.missingValue flag)) := by
  cases rest with
  | nil => exact if_pos hflag
  | cons word others =>
    cases word with
    | plain text => exact absurd rfl (hrest text others)
    | _ => exact if_pos hflag

/-- An option without a value leaves the word behind it alone. -/
theorem readWords_switch {flag : Flag} (hflag : ¬flag.value?.isSome) (spelling : String)
    (rest : List Word) (invocation : Invocation) :
    readWords defaults (.option flag spelling none :: rest) invocation =
      setSwitch defaults invocation flag >>= readWords defaults rest := by
  rw [readWords.eq_def]
  exact if_neg hflag

/-- Words are read alike with any defaults, and their texts for the time limit decide what it is. -/
theorem alike_readWords (words : List Word) (first second : Invocation) :
    Alike defaults others (ReadsAlike (limitTexts words) first)
      (readWords defaults words first) (readWords others words second) := by
  -- along the words as they are read: an option may take the word behind it
  induction words, first using readWords.induct generalizing second with
  | case1 first => exact .ok ⟨.refl rfl, rfl⟩
  | case2 text rest first ih => exact (ih second).keepText text
  | case3 rest first ih => exact (ih second).keepText "--"
  | case4 text rest first ih => exact (ih second).keepText text
  | case5 flag spelling text rest first ih =>
    rw [readWords_option_some, readWords_option_some, limitTexts_option_some]
    apply (alike_orStop _).bind
    rintro ⟨flags, value⟩ - ⟨hattached, rfl⟩
    apply (alike_setAll defaults others hattached first second).bind
    intro a b hset
    exact (ih a b).trans_gives hset
  | case6 flag spelling first hflag text rest ih =>
    rw [readWords_option_plain defaults hflag, readWords_option_plain others hflag,
      limitTexts_option_plain]
    apply (alike_setValue defaults others first second flag text).bind
    intro a b hset
    exact (ih a b).trans_gives hset
  | case7 flag spelling rest first hflag hrest =>
    rw [readWords_option_missing defaults hflag spelling hrest,
      readWords_option_missing others hflag spelling hrest]
    exact .fault _
  | case8 flag spelling rest first hflag ih =>
    have htimeout : flag ≠ .timeout := by
      rintro rfl
      exact hflag rfl
    rw [readWords_switch defaults hflag, readWords_switch others hflag,
      limitTexts_option_none htimeout]
    apply (alike_setSwitch defaults others first second flag).bind
    intro a b hset
    exact (ih a b).trans_gives hset

end Alike

/-! ## What arguments ask for -/

/-- The texts that arguments give for the time limit, in order. -/
def limits (arguments : List String) : List String :=
  match wordsOf arguments with
  | .ok words => limitTexts words
  | .error _ => []

/-- Arguments that ask for the help before anything in them is wrong. -/
def AsksHelp (arguments : List String) : Prop :=
  ∃ text, read [] arguments = .error (.help text)

/-- Arguments that are accepted. -/
def IsAccepted (arguments : List String) : Prop :=
  (read [] arguments).isOk = true

/-- The invocation that nothing is asked of. -/
def Invocation.ofDefaults (defaults : Config) : Invocation :=
  { config := defaults, verbose := false }

/-- Arguments are read alike in all environments that have settings. -/
theorem alike_read {environment other : Named String} {defaults others : Config}
    (h : Config.ofEnvironment environment = .ok defaults)
    (hother : Config.ofEnvironment other = .ok others) (arguments : List String) :
    Alike defaults others
      (fun invocation _ ↦ Gives (limits arguments) (.ofDefaults defaults) invocation)
      (read environment arguments) (read other arguments) := by
  unfold read
  rw [h, hother]
  apply (alike_orStop _).bind
  rintro words _ ⟨hwords, rfl⟩
  have hlimits : limits arguments = limitTexts words := by rw [limits, hwords]
  rw [hlimits]
  apply (alike_readWords defaults others words _ _).bind
  rintro ⟨invocation, texts⟩ ⟨twin, -⟩ ⟨hgives, rfl⟩
  cases texts with
  | nil => exact .ok hgives
  | cons text rest => exact .fault _

/-! ## The defaults of an environment -/

theorem timeoutOf_eq_error_iff {environment : Named String} {fault : ConfigFault} :
    Config.timeoutOf environment = .error fault ↔
      Config.filled? environment "ROUTERGEN_TIMEOUT" = some fault.timeout ∧
        ¬IsPositive fault.timeout := by
  rw [Config.timeoutOf, IsPositive]
  cases hfilled : Config.filled? environment "ROUTERGEN_TIMEOUT" with
  | none => simp
  | some text =>
    rw [← Option.isSome_filter]
    cases hread : (Text.readFloat? text).filter Binary64.isPositive with
    | none =>
      simp only [hread]
      constructor
      · intro h
        obtain rfl := Except.error.inj h
        exact ⟨rfl, by simp [hread]⟩
      · rintro ⟨htext, -⟩
        rw [Option.some.inj htext]
    | some limit =>
      simp only [hread]
      constructor
      · intro h
        contradiction
      · rintro ⟨htext, hnot⟩
        obtain rfl := Option.some.inj htext
        exact absurd (by rw [hread]; rfl) hnot

theorem isPositive_of_timeoutOf {environment : Named String} {limit : Binary64}
    (h : Config.timeoutOf environment = .ok limit) : limit.isPositive = true := by
  rw [Config.timeoutOf] at h
  cases hfilled : Config.filled? environment "ROUTERGEN_TIMEOUT" with
  | none =>
    rw [hfilled] at h
    obtain rfl : Config.defaultTimeout = limit := Except.ok.inj h
    decide +kernel
  | some text =>
    simp only [hfilled] at h
    cases hread : (Text.readFloat? text).filter Binary64.isPositive with
    | none => simp [hread] at h
    | some positive =>
      simp only [hread] at h
      obtain rfl : positive = limit := Except.ok.inj h
      exact (Option.filter_eq_some_iff.mp hread).2

theorem ofEnvironment_eq_error_iff {environment : Named String} {fault : ConfigFault} :
    Config.ofEnvironment environment = .error fault ↔
      Config.filled? environment "ROUTERGEN_TIMEOUT" = some fault.timeout ∧
        ¬IsPositive fault.timeout := by
  rw [← timeoutOf_eq_error_iff, Config.ofEnvironment]
  cases Config.timeoutOf environment with
  | ok limit => simp [bind, Except.bind, pure, Except.pure]
  | error fault => simp [bind, Except.bind]

theorem isPositive_of_ofEnvironment {environment : Named String} {defaults : Config}
    (h : Config.ofEnvironment environment = .ok defaults) :
    defaults.timeout.isPositive = true := by
  rw [Config.ofEnvironment] at h
  cases hlimit : Config.timeoutOf environment with
  | error fault =>
    rw [hlimit] at h
    contradiction
  | ok limit =>
    rw [hlimit] at h
    obtain rfl := Except.ok.inj h
    exact isPositive_of_timeoutOf hlimit

/-! ## How a reading ends -/

/-- An invocation with a positive time limit, the help, or a fault of usage. -/
def EndsWell : Except Stop Invocation → Prop
  | .ok invocation => invocation.limit?.any Binary64.isPositive = true
  | .error stop => stop.exitCode = 0 ∨ stop.exitCode = 2

theorem endsWell_helpStop (defaults : Config) :
    EndsWell (.error (helpStop defaults)) ↔ (help defaults).isOk = true := by
  rw [helpStop]
  cases help defaults with
  | ok text => exact iff_of_true (.inl rfl) rfl
  | error fault => exact iff_of_false (by simp [EndsWell, Stop.exitCode]) Bool.false_ne_true

theorem foldl_eq_getLast? {α β : Type} (f : α → β) (start : β) (values : List α) :
    values.foldl (fun _ value ↦ f value) start = values.getLast?.elim start f := by
  induction values generalizing start with
  | nil => rfl
  | cons value rest ih =>
    rw [List.foldl_cons, ih, List.getLast?_cons]
    cases rest.getLast? <;> rfl

theorem Gives.endsWell_iff {texts : List String} {before after : Invocation}
    (h : Gives texts before after) (hbefore : before.limit?.any Binary64.isPositive = true) :
    EndsWell (.ok after) ↔ ∀ text ∈ texts.getLast?, IsPositive text := by
  rw [EndsWell, h.limit_eq, foldl_eq_getLast?]
  cases texts.getLast? with
  | none => exact iff_of_true hbefore (by simp)
  | some text => simp [IsPositive]

/-- The settings of no environment have help that can be written. -/
theorem exists_ofEnvironment_nil :
    ∃ defaults text, Config.ofEnvironment [] = .ok defaults ∧ help defaults = .ok text := by
  have hany :
      ((Config.ofEnvironment []).toOption.any fun defaults ↦ (help defaults).isOk) = true := by
    decide +kernel
  cases hdefaults : Config.ofEnvironment [] with
  | error fault =>
    rw [hdefaults] at hany
    contradiction
  | ok defaults =>
    rw [hdefaults] at hany
    cases hhelp : help defaults with
    | error fault => simp [Except.toOption, hhelp, Except.isOk, Except.toBool] at hany
    | ok text => exact ⟨defaults, text, rfl, hhelp⟩

theorem read_eq_environment_iff {environment : Named String} {arguments : List String}
    {fault : ConfigFault} :
    read environment arguments = .error (.environment fault) ↔
      Config.ofEnvironment environment = .error fault := by
  cases hdefaults : Config.ofEnvironment environment with
  | error other => simp [read, hdefaults]
  | ok defaults =>
    have halike := alike_read hdefaults hdefaults arguments
    generalize read environment arguments = result at halike
    cases halike with
    | help =>
      rw [helpStop]
      cases help defaults <;> simp
    | fault other => simp
    | ok h => simp

theorem endsWell_read_iff {environment : Named String} {defaults : Config}
    (h : Config.ofEnvironment environment = .ok defaults) (arguments : List String) :
    EndsWell (read environment arguments) ↔
      (AsksHelp arguments → (help defaults).isOk = true) ∧
        (IsAccepted arguments → ∀ text ∈ (limits arguments).getLast?, IsPositive text) := by
  obtain ⟨others, text, hothers, hhelp⟩ := exists_ofEnvironment_nil
  have hpositive : (Invocation.ofDefaults defaults).limit?.any Binary64.isPositive = true :=
    isPositive_of_ofEnvironment h
  have halike := alike_read h hothers arguments
  unfold AsksHelp IsAccepted
  generalize read environment arguments = result at halike
  generalize read [] arguments = twin at halike
  cases halike with
  | help =>
    rw [endsWell_helpStop]
    simp [helpStop, hhelp, Except.isOk, Except.toBool]
  | fault fault => exact iff_of_true (.inr rfl) (by simp [Except.isOk, Except.toBool])
  | ok hgives =>
    rw [hgives.endsWell_iff hpositive]
    simp [Except.isOk, Except.toBool]

theorem isNumber_of_read {environment : Named String} {arguments : List String}
    {invocation : Invocation} (h : read environment arguments = .ok invocation) :
    ∀ text ∈ limits arguments, text = "--" ∨ (Text.readFloat? text).isSome = true := by
  cases hdefaults : Config.ofEnvironment environment with
  | error fault =>
    rw [read_eq_environment_iff.mpr hdefaults] at h
    contradiction
  | ok defaults =>
    have halike := alike_read hdefaults hdefaults arguments
    rw [h] at halike
    cases halike with
    | ok hgives => exact hgives.isNumber

/-- A reading ends well exactly if the help can be written where it is asked for, and the last text
for the time limit of accepted arguments is positive. The variable is refused exactly if it is set
to something else than a positive number; texts of accepted arguments are only known to be
numbers. -/
theorem read_endsWell_iff (environment : Named String) (arguments : List String) :
    (EndsWell (read environment arguments) ↔
      ∀ defaults, Config.ofEnvironment environment = .ok defaults →
        (AsksHelp arguments → (help defaults).isOk = true) ∧
          (IsAccepted arguments → ∀ text ∈ (limits arguments).getLast?, IsPositive text)) ∧
      ((∃ fault, read environment arguments = .error (.environment fault)) ↔
        ∃ text, Config.filled? environment "ROUTERGEN_TIMEOUT" = some text ∧ ¬IsPositive text) ∧
      (∀ invocation, read environment arguments = .ok invocation →
        ∀ text ∈ limits arguments, text = "--" ∨ (Text.readFloat? text).isSome = true) := by
  refine ⟨?_, ?_, fun _ ↦ isNumber_of_read⟩
  · cases hdefaults : Config.ofEnvironment environment with
    | error fault =>
      rw [read_eq_environment_iff.mpr hdefaults]
      exact iff_of_true (.inr rfl) (by simp)
    | ok defaults => simpa using endsWell_read_iff hdefaults arguments
  · simp only [read_eq_environment_iff, ofEnvironment_eq_error_iff]
    exact ⟨fun ⟨fault, h⟩ ↦ ⟨fault.timeout, h⟩, fun ⟨text, h⟩ ↦ ⟨⟨text⟩, h⟩⟩

/-- An option accepts zero. -/
theorem zeroLimit_not_endsWell :
    IsAccepted ["--timeout", "0"] ∧ ¬EndsWell (read [] ["--timeout", "0"]) := by
  have haccepted : IsAccepted ["--timeout", "0"] := by
    unfold IsAccepted
    decide
  refine ⟨haccepted, fun h ↦ ?_⟩
  obtain ⟨defaults, -, hdefaults, -⟩ := exists_ofEnvironment_nil
  have hpositive := ((read_endsWell_iff [] ["--timeout", "0"]).1.mp h defaults hdefaults).2
  have hzero : "0" ∈ (limits ["--timeout", "0"]).getLast? := by decide
  exact absurd (hpositive haccepted "0" hzero) (by decide)

end ApiCompiler.CommandLine
