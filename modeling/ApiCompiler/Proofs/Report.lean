import ApiCompiler.Report

/-!
# Outcomes of reports

A sequence of computations succeeds exactly when each of its parts does, and fails exactly as its
first failing part. Proofs about the compiler take a run apart by these laws and never look at the
log.
-/

namespace ApiCompiler.Report

variable {α β γ δ : Type}

@[simp] theorem outcome_note (entry : LogEntry) : (note entry).outcome = .ok () :=
  rfl

theorem outcome_bind_of_ok {x : Report α} {a : α} (h : x.outcome = .ok a) (f : α → Report β) :
    (x >>= f).outcome = (f a).outcome := by
  rw [outcome_bind, h]
  rfl

theorem outcome_bind_eq_ok {x : Report α} {f : α → Report β} {b : β} :
    (x >>= f).outcome = .ok b ↔ ∃ a, x.outcome = .ok a ∧ (f a).outcome = .ok b := by
  rw [outcome_bind]
  cases x.outcome <;> simp [Except.bind]

/-- A sequence whose parts have the results of the parts of another one, up to what is done to
them. -/
theorem outcome_bind_map {x : Report α} {y : Report δ} {f : α → Report β} {g : δ → Report γ}
    {k : δ → α} {h : γ → β} (hx : x.outcome = y.outcome.map k)
    (hf : ∀ a, (f (k a)).outcome = (g a).outcome.map h) :
    (x >>= f).outcome = (y >>= g).outcome.map h := by
  rw [outcome_bind, outcome_bind, hx]
  cases y.outcome with
  | error failure => rfl
  | ok a => exact hf a

theorem outcome_bind_map_right {x : Report α} {f : α → Report β} {g : α → Report γ} {h : γ → β}
    (hf : ∀ a, (f a).outcome = (g a).outcome.map h) :
    (x >>= f).outcome = (x >>= g).outcome.map h :=
  outcome_bind_map (congrFun Except.map_id x.outcome).symm hf

theorem outcome_bind_eq_error {x : Report α} {f : α → Report β} {failure : Failure} :
    (x >>= f).outcome = .error failure ↔
      x.outcome = .error failure ∨ ∃ a, x.outcome = .ok a ∧ (f a).outcome = .error failure := by
  rw [outcome_bind]
  cases x.outcome <;> simp [Except.bind]

/-- The failure of a computation, if it fails. -/
def failure? (x : Report α) : Option Failure :=
  match x.outcome with
  | .ok _ => none
  | .error failure => some failure

theorem failure?_eq_some_iff {x : Report α} {failure : Failure} :
    x.failure? = some failure ↔ x.outcome = .error failure := by
  unfold failure?
  cases x.outcome <;> simp

theorem failure?_eq_none_iff {x : Report α} :
    x.failure? = none ↔ ∃ a, x.outcome = .ok a := by
  unfold failure?
  cases x.outcome <;> simp

theorem failure?_eq_none_of_ok {x : Report α} {a : α} (h : x.outcome = .ok a) :
    x.failure? = none :=
  failure?_eq_none_iff.mpr ⟨a, h⟩

theorem failure?_bind_of_ok {x : Report α} {a : α} (h : x.outcome = .ok a) (f : α → Report β) :
    (x >>= f).failure? = (f a).failure? := by
  unfold failure?
  rw [outcome_bind_of_ok h]

theorem failure?_bind_of_some {x : Report α} {failure : Failure} (h : x.failure? = some failure)
    (f : α → Report β) : (x >>= f).failure? = some failure :=
  failure?_eq_some_iff.mpr (outcome_bind_eq_error.mpr (.inl (failure?_eq_some_iff.mp h)))

/-- A sequence succeeds when its first part does and the rest succeeds whatever that part gives. -/
theorem failure?_bind_eq_none {x : Report α} {f : α → Report β} (hx : x.failure? = none)
    (hf : ∀ a, x.outcome = .ok a → (f a).failure? = none) : (x >>= f).failure? = none := by
  obtain ⟨a, ha⟩ := failure?_eq_none_iff.mp hx
  rw [failure?_bind_of_ok ha]
  exact hf a ha

/-- A sequence whose later parts never fail fails as its first part does. -/
theorem failure?_bind_of_forall (x : Report α) {f : α → Report β}
    (hf : ∀ a, (f a).failure? = none) : (x >>= f).failure? = x.failure? := by
  cases hx : x.failure? with
  | none => exact failure?_bind_eq_none hx fun a _ ↦ hf a
  | some failure => exact failure?_bind_of_some hx f

/-- Where what can go wrong in both parts of a sequence is listed, the sequence fails with what is
listed first. -/
theorem failure?_bind_eq_head? {x : Report α} {f : α → Report β} {first rest : List Failure}
    (hx : x.failure? = first.head?) (hf : ∀ a, (f a).failure? = rest.head?) :
    (x >>= f).failure? = (first ++ rest).head? := by
  cases first with
  | nil =>
    obtain ⟨a, ha⟩ := failure?_eq_none_iff.mp hx
    rw [failure?_bind_of_ok ha]
    exact hf a
  | cons failure others => exact failure?_bind_of_some hx f

/-- Notes alone never fail. -/
theorem outcome_forM_note (entries : List LogEntry) : (entries.forM note).outcome = .ok () := by
  induction entries with
  | nil => rfl
  | cons entry rest ih =>
    have hbind : (entry :: rest).forM note = (do note entry; rest.forM note) := rfl
    rw [hbind, outcome_bind_of_ok (outcome_note entry)]
    exact ih

/-- Whether a computation succeeds with a result that has a decidable property is decidable. -/
instance decidableExistsOk (outcome : Except Failure α) (P : α → Prop) [DecidablePred P] :
    Decidable (∃ a, outcome = .ok a ∧ P a) :=
  match outcome with
  | .ok a => decidable_of_iff (P a) ⟨fun h ↦ ⟨a, rfl, h⟩, fun ⟨_, heq, h⟩ ↦ Except.ok.inj heq ▸ h⟩
  | .error _ => .isFalse fun ⟨_, h, _⟩ ↦ nomatch h

/-- Whether a computation fails with a given failure is decidable, whatever it computes. -/
instance decidableEqError {ε : Type} [DecidableEq ε] (outcome : Except ε α) (failure : ε) :
    Decidable (outcome = .error failure) :=
  match outcome with
  | .ok _ => .isFalse fun h ↦ nomatch h
  | .error other =>
    decidable_of_iff (other = failure) ⟨congrArg Except.error, fun h ↦ Except.error.inj h⟩

end ApiCompiler.Report
