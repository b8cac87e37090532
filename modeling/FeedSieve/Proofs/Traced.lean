import FeedSieve.Log

/-!
# Steps that report and may fail

Outcome and entries of a composed step, told by those of its parts. `Traced.Only` says that all entries a
step writes, whether it succeeds or not, have a property; it is kept by composition.
-/
namespace FeedSieve

/-- Entries are joined in the order of the steps, so composition is associative. -/
instance : LawfulMonad Logged := .mk' Logged
  (fun x => by
    change (⟨x.entries ++ [], x.value⟩ : Logged _) = x
    rw [List.append_nil])
  (fun a f => by
    change (⟨[] ++ (f a).entries, (f a).value⟩ : Logged _) = f a
    rw [List.nil_append])
  (fun x f g => by
    change (⟨(x.entries ++ _) ++ _, _⟩ : Logged _) = ⟨x.entries ++ (_ ++ _), _⟩
    rw [List.append_assoc]
    rfl)

@[simp] theorem Logged.entries_map {α β : Type} (f : α → β) (x : Logged α) :
    (f <$> x).entries = x.entries := by
  change x.entries ++ [] = x.entries
  exact List.append_nil _

namespace Traced

variable {ε α β : Type}

@[simp] theorem outcome_pure (a : α) : (pure a : Traced ε α).outcome = .ok a := rfl

@[simp] theorem entries_pure (a : α) : (pure a : Traced ε α).entries = [] := rfl

@[simp] theorem outcome_throw (e : ε) : (throw e : Traced ε α).outcome = .error e := rfl

@[simp] theorem entries_throw (e : ε) : (throw e : Traced ε α).entries = [] := rfl

@[simp] theorem outcome_ofLogged (x : Logged α) : (ofLogged x : Traced ε α).outcome = .ok x.value := rfl

@[simp] theorem entries_ofLogged (x : Logged α) : (ofLogged x : Traced ε α).entries = x.entries := by
  change x.entries ++ [] = x.entries
  exact List.append_nil _

/-- The outcome of a composed step is that of its parts, composed. -/
@[simp] theorem outcome_bind (x : Traced ε α) (f : α → Traced ε β) :
    (x >>= f).outcome = x.outcome >>= fun a => (f a).outcome := by
  change (ExceptT.bindCont f x.outcome).value = _
  cases x.outcome <;> rfl

theorem map_eq_bind (x : Traced ε α) (f : α → β) : f <$> x = x >>= fun a => pure (f a) :=
  rfl

@[simp] theorem outcome_map (x : Traced ε α) (f : α → β) : (f <$> x).outcome = f <$> x.outcome := by
  rw [map_eq_bind, outcome_bind]
  cases x.outcome <;> rfl

@[simp] theorem ok_bind (a : α) (f : α → Except ε β) : (Except.ok a >>= f) = f a := rfl

/-- A composed step fails in its first part, or in its second part after the first. -/
theorem bind_eq_error_iff {x : Except ε α} {f : α → Except ε β} {e : ε} :
    (x >>= f) = .error e ↔ x = .error e ∨ ∃ a, x = .ok a ∧ f a = .error e := by
  cases x with
  | error cause => simp [bind, Except.bind]
  | ok a => simp [bind, Except.bind]

theorem bind_eq_ok_iff {x : Except ε α} {f : α → Except ε β} {b : β} :
    (x >>= f) = .ok b ↔ ∃ a, x = .ok a ∧ f a = .ok b := by
  cases x with
  | error cause => simp [bind, Except.bind]
  | ok a => simp [bind, Except.bind]

theorem map_eq_ok_iff {x : Except ε α} {f : α → β} {b : β} :
    x.map f = .ok b ↔ ∃ a, x = .ok a ∧ f a = b := by
  cases x with
  | error cause => simp [Except.map]
  | ok a => simp [Except.map]

theorem map_eq_error_iff {x : Except ε α} {f : α → β} {e : ε} :
    x.map f = .error e ↔ x = .error e := by
  cases x <;> simp [Except.map]

/-- A sequence of steps fails exactly as one of them does behind steps that succeed. -/
theorem mapM_eq_error_iff (f : α → Except ε β) (xs : List α) (e : ε) :
    xs.mapM f = .error e ↔
      ∃ before x after, xs = before ++ x :: after ∧ (∀ y ∈ before, ∃ b, f y = .ok b) ∧ f x = .error e := by
  induction xs with
  | nil => simp [pure, Except.pure]
  | cons x rest ih =>
    rw [List.mapM_cons, bind_eq_error_iff]
    simp only [bind_eq_error_iff, ih]
    constructor
    · rintro (here | ⟨b, passed, ⟨before, y, after, rfl, others, failed⟩ | ⟨later, -, ⟨⟩⟩⟩)
      · exact ⟨[], x, rest, rfl, by simp, here⟩
      · exact ⟨x :: before, y, after, rfl, List.forall_mem_cons.mpr ⟨⟨b, passed⟩, others⟩, failed⟩
    · rintro ⟨before, y, after, cut, passed, failed⟩
      cases before with
      | nil =>
        obtain ⟨rfl, rfl⟩ := List.cons.inj cut
        exact .inl failed
      | cons first before =>
        obtain ⟨rfl, rfl⟩ := List.cons.inj cut
        obtain ⟨⟨b, here⟩, others⟩ := List.forall_mem_cons.mp passed
        exact .inr ⟨b, here, .inl ⟨before, y, after, rfl, others, failed⟩⟩

/-- A sequence of steps succeeds exactly if each of them does. -/
theorem mapM_ok_iff (f : α → Except ε β) (xs : List α) :
    (∃ bs, xs.mapM f = .ok bs) ↔ ∀ x ∈ xs, ∃ b, f x = .ok b := by
  induction xs with
  | nil => simp [pure, Except.pure]
  | cons x rest ih =>
    rw [List.forall_mem_cons, ← ih]
    simp only [List.mapM_cons, bind_eq_ok_iff]
    constructor
    · rintro ⟨_, b, first, bs, others, -⟩
      exact ⟨⟨b, first⟩, bs, others⟩
    · rintro ⟨⟨b, first⟩, bs, others⟩
      exact ⟨b :: bs, b, first, bs, others, rfl⟩

theorem entries_bind (x : Traced ε α) (f : α → Traced ε β) :
    (x >>= f).entries = x.entries ++ match x.outcome with
      | .ok a => (f a).entries
      | .error _ => [] := by
  change x.entries ++ (ExceptT.bindCont f x.outcome).entries = _
  cases x.outcome <;> rfl

theorem entries_bind_ok {x : Traced ε α} {a : α} (h : x.outcome = .ok a) (f : α → Traced ε β) :
    (x >>= f).entries = x.entries ++ (f a).entries := by
  rw [entries_bind, h]

@[simp] theorem entries_map (x : Traced ε α) (f : α → β) : (f <$> x).entries = x.entries := by
  rw [map_eq_bind, entries_bind]
  cases x.outcome <;> exact List.append_nil _

/-- All entries that the step writes have the property. -/
def Only (P : Log.Entry → Prop) (x : Traced ε α) : Prop := ∀ e ∈ x.entries, P e

theorem only_pure (P : Log.Entry → Prop) (a : α) : Only P (pure a : Traced ε α) := by
  simp [Only]

theorem only_throw (P : Log.Entry → Prop) (e : ε) : Only P (throw e : Traced ε α) := by
  simp [Only]

theorem only_ofLogged {P : Log.Entry → Prop} {x : Logged α} (h : ∀ e ∈ x.entries, P e) :
    Only P (ofLogged x : Traced ε α) := by
  simpa [Only] using h

/-- The second part need only be looked at for what the first one gives. -/
theorem only_bind {P : Log.Entry → Prop} {x : Traced ε α} {f : α → Traced ε β} (hx : Only P x)
    (hf : ∀ a, x.outcome = .ok a → Only P (f a)) : Only P (x >>= f) := by
  intro e member
  rw [entries_bind, List.mem_append] at member
  rcases member with first | later
  · exact hx e first
  · cases outcome : x.outcome with
    | ok a =>
      rw [outcome] at later
      exact hf a outcome e later
    | error cause => simp [outcome] at later

theorem only_map {P : Log.Entry → Prop} {x : Traced ε α} (hx : Only P x) (f : α → β) :
    Only P (f <$> x) := by
  intro e member
  rw [entries_map] at member
  exact hx e member

end Traced

end FeedSieve
