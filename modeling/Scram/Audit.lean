import Scram.Mechanism

/-!
# Audited steps

A step of a server that may fail, together with everything it did on the way that someone else
can see: whom it asked what, and what it noted down. Events come in the order in which they
happen, and a failure keeps the events before it.
-/

namespace Scram

inductive Level where
  | debug
  | warn
  deriving DecidableEq, Repr

/-- What a server notes down. Stored secrets are no part of any notice. -/
inductive Notice where
  /-- A first message was accepted. -/
  | begun (mechanism : Mechanism) (username : String) (kind : BindingKind)
  | emptyPassword (username : String)
  | fewIterations (username : String) (actual minimum : IterationCount)
  | authenticated (mechanism : Mechanism) (identity : String)
  | failed (mechanism : Mechanism) (error : Error)
  deriving DecidableEq, Repr

/-- Trouble with stored credentials is a warning, and so is a failure that suggests that someone
stripped the channel binding. -/
def Notice.level : Notice → Level
  | begun .. | authenticated .. => .debug
  | emptyPassword _ | fewIterations .. => .warn
  | failed _ error => if error.suggestsDowngrade then .warn else .debug

def Notice.text : Notice → String
  | begun mechanism username kind =>
    mechanism.name ++ ": client first from " ++ username ++ " with channel binding " ++ kind.name
  | emptyPassword username => "user " ++ username ++ " exists, but the password is empty"
  | fewIterations username actual minimum =>
    "credentials of " ++ username ++ " use " ++ actual.text
      ++ " iterations, below the minimum of " ++ minimum.text
  | authenticated mechanism identity => mechanism.name ++ ": authenticated as " ++ identity
  | failed mechanism error =>
    if error.suggestsDowngrade then
      mechanism.name ++ ": " ++ error.message ++ ", possible downgrade attack"
    else
      mechanism.name ++ ": exchange failed: " ++ error.message

/-- What others see of a server while it works. -/
inductive Event where
  /-- The transport was asked for binding data. -/
  | askedBinding (kind : BindingKind)
  /-- The credentials of a user were looked up. -/
  | lookedUp (username : String)
  /-- It was asked whether a user may act as an identity. -/
  | askedAuthorization (authcid authzid : String)
  | noted (notice : Notice)
  deriving DecidableEq, Repr

/-- A step that may fail, with the events on the way. -/
structure Audit (α : Type) where
  events : List Event
  result : Except Error α

namespace Audit

variable {α β γ : Type}

/-- A step without events. -/
def of (result : Except Error α) : Audit α := ⟨[], result⟩

def fail (error : Error) : Audit α := of (.error error)

/-- The step that only leaves an event. -/
def emit (event : Event) : Audit Unit := ⟨[event], .ok ()⟩

def note (notice : Notice) : Audit Unit := emit (.noted notice)

protected def bind (x : Audit α) (f : α → Audit β) : Audit β :=
  match x.result with
  | .ok a => ⟨x.events ++ (f a).events, (f a).result⟩
  | .error error => ⟨x.events, .error error⟩

instance : Monad Audit where
  pure a := of (.ok a)
  bind := Audit.bind

/-- How steps are grouped does not matter, neither for what comes of them nor for the order of their
events. -/
theorem bind_assoc (x : Audit α) (f : α → Audit β) (g : β → Audit γ) :
    x >>= f >>= g = x >>= fun a => f a >>= g := by
  obtain ⟨events, result⟩ := x
  cases result with
  | error => rfl
  | ok a =>
    simp only [bind, Audit.bind]
    cases (f a).result <;> simp

/-- Changing nothing of what a step passes leaves the step. -/
theorem id_map (x : Audit α) : id <$> x = x := by
  obtain ⟨events, result⟩ := x
  cases result <;> simp [Functor.map, Audit.bind, of]

instance : LawfulMonad Audit := .mk' Audit id_map (fun _ _ => rfl) bind_assoc

/-- A step that passes without events leaves what follows it. -/
@[simp] theorem of_ok_bind (a : α) (f : α → Audit β) : of (.ok a) >>= f = f a := rfl

/-- A step that fails ends all that follows it. -/
@[simp] theorem of_error_bind (error : Error) (f : α → Audit β) :
    of (.error error) >>= f = fail error := rfl

/-- An event comes before those of what follows it. -/
@[simp] theorem emit_bind (event : Event) (f : Unit → Audit β) :
    emit event >>= f = ⟨event :: (f ()).events, (f ()).result⟩ := rfl

@[simp] theorem note_bind (notice : Notice) (f : Unit → Audit β) :
    note notice >>= f = ⟨.noted notice :: (f ()).events, (f ()).result⟩ := rfl

@[simp] theorem of_result (result : Except Error α) : (of result).result = result := rfl

@[simp] theorem emit_result (event : Event) : (emit event).result = .ok () := rfl

@[simp] theorem pure_result (a : α) : (pure a : Audit α).result = .ok a := rfl

@[simp] theorem fail_result (error : Error) : (fail error : Audit α).result = .error error := rfl

/-- What a step passes is changed, and its error is not. -/
@[simp] theorem map_result (f : α → β) (x : Audit α) : (f <$> x).result = x.result.map f := by
  obtain ⟨events, result⟩ := x
  cases result <;> rfl

/-- What comes of a step and what follows it does not depend on their events. -/
theorem bind_result (x : Audit α) (f : α → Audit β) :
    (x >>= f).result = x.result >>= fun a => (f a).result := by
  obtain ⟨events, result⟩ := x
  cases result <;> rfl

/-- A step and what follows it pass where each passes. -/
theorem bind_result_eq_ok_iff {x : Audit α} {f : α → Audit β} {b : β} :
    (x >>= f).result = .ok b ↔ ∃ a, x.result = .ok a ∧ (f a).result = .ok b := by
  rw [bind_result, bind_eq_ok_iff]

end Audit

end Scram
