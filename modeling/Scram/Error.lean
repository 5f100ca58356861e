import Scram.ChannelBinding.Kind
import Scram.Phase

/-!
# Errors

Why an exchange fails, one constructor for each cause, and the three readings of a cause: the
text for people, the class for accounting, and the little that the other end is told. The
failures of authentication all read alike on the wire, so that a client does not learn which
check refused it.
-/

namespace Scram

/-- The parts of the messages that an error can point at. -/
inductive Field where
  /-- The message as a whole, which is not UTF-8. -/
  | encoding
  | bindingFlag
  | authzid
  /-- The attribute reserved for mandatory extensions. -/
  | mandatoryExtension
  | authcid
  | nonce
  | salt
  | iterations
  | binding
  | proof
  /-- What a server's final message carries: its signature or an error. -/
  | verdict
  deriving DecidableEq, Repr

def Field.label : Field → String
  | encoding => "Encoding"
  | bindingFlag => "ChannelBindingFlag"
  | authzid => "Authzid"
  | mandatoryExtension => "Extension"
  | authcid => "Authcid"
  | nonce => "Nonce"
  | salt => "Salt"
  | iterations => "Iterations"
  | binding => "ChannelBinding"
  | proof => "Proof"
  | verdict => "VerifyOrError"

/-- How a message can be outside its grammar. -/
inductive Defect where
  /-- The server's nonce does not extend the client's. -/
  | foreignNonce
  /-- The field is there, and its content is not allowed. -/
  | invalid (field : Field)
  /-- The field is not where the grammar has it. -/
  | missing (field : Field)
  deriving DecidableEq, Repr

def Defect.text : Defect → String
  | foreignNonce => "invalid nonce"
  | invalid field => "invalid field " ++ field.label
  | missing field => "expected field " ++ field.label

/-- Why an exchange fails. -/
inductive Error where
  | malformed (defect : Defect)
  /-- No hash algorithm or mechanism has this name. -/
  | unsupportedAlgorithm (name : String)
  /-- The other end uses the attribute reserved for mandatory extensions. -/
  | unsupportedExtension
  /-- The channel binding is unknown, or the mechanism does not take it. -/
  | unsupportedBinding (name : String)
  /-- The client takes the server to have no channel binding, although it was offered. -/
  | bindingDowngrade
  /-- The transport has no binding data of the kind. -/
  | bindingUnavailable (kind : BindingKind)
  /-- The client's end of the binding is not the server's. -/
  | bindingMismatch
  /-- There is no such user, or none with usable credentials. -/
  | unknownUser
  /-- The credentials were hashed less often than the policy asks for. -/
  | fewIterations (actual minimum : Nat)
  /-- The client's final message carries another nonce than the exchange. -/
  | nonceMismatch
  /-- The client's proof is wrong. -/
  | wrongProof
  /-- The user may not act as the identity asked for. -/
  | notAuthorized (authcid authzid : String)
  /-- The phase does not take this message. -/
  | outOfSequence (phase : Phase)
  /-- The server did not show that it knows the user's keys. -/
  | unprovenServer
  /-- The server refused, with this value. -/
  | rejected (value : String)
  deriving DecidableEq, Repr

/-- Classes of errors. -/
inductive Error.Category where
  /-- The other end left the message grammar. -/
  | protocol
  /-- Negotiating or checking the channel binding failed. -/
  | channelBinding
  /-- Credentials or authorization were refused. -/
  | authentication
  /-- A message came out of sequence. -/
  | state
  /-- What is configured cannot serve the exchange. -/
  | configuration
  deriving DecidableEq, Repr

/-- What a server tells a client whose message it refuses. -/
inductive Refusal where
  | invalidEncoding
  | extensionsNotSupported
  | unsupportedBindingType
  | otherError
  deriving DecidableEq, Repr

def Refusal.text : Refusal → String
  | invalidEncoding => "invalid-encoding"
  | extensionsNotSupported => "extensions-not-supported"
  | unsupportedBindingType => "unsupported-channel-binding-type"
  | otherError => "other-error"

namespace Error

/-- A field whose content is not allowed. -/
abbrev invalid (field : Field) : Error := malformed (.invalid field)

/-- A field that is not where the grammar has it. -/
abbrev missing (field : Field) : Error := malformed (.missing field)

/-- Whether a message was outside its grammar. -/
def IsMalformed (error : Error) : Prop := ∃ defect, error = malformed defect

/-- Errors about a field of a message, which is not in its place or has a content that is not
allowed. -/
inductive IsAboutField : Error → Prop
  | missing (field : Field) : IsAboutField (missing field)
  | invalid (field : Field) : IsAboutField (invalid field)

/-- A message with a wrong field is a malformed one. -/
theorem IsAboutField.isMalformed {error : Error} (h : error.IsAboutField) : error.IsMalformed := by
  cases h with
  | missing => exact ⟨_, rfl⟩
  | invalid => exact ⟨_, rfl⟩

def message : Error → String
  | malformed defect => "malformed message: " ++ defect.text
  | unsupportedAlgorithm name => "unsupported algorithm `" ++ name ++ "`"
  | unsupportedExtension => "unsupported extension"
  | unsupportedBinding name => "unsupported channel binding `" ++ name ++ "`"
  | bindingDowngrade => "client downgraded channel binding"
  | bindingUnavailable kind => "channel binding data for " ++ kind.name ++ " is unavailable"
  | bindingMismatch => "channel binding mismatch"
  | unknownUser => "unknown user"
  | fewIterations actual minimum =>
    "iteration count " ++ actual.repr ++ " is below the minimum of " ++ minimum.repr
  | nonceMismatch => "nonce mismatch"
  | wrongProof => "invalid credentials"
  | notAuthorized authcid authzid =>
    "`" ++ authcid ++ "` is not authorized to act as `" ++ authzid ++ "`"
  | outOfSequence phase => "message received in illegal state " ++ phase.label
  | unprovenServer => "server failed validation"
  | rejected value => "authentication error " ++ value

def category : Error → Category
  | malformed _ | unsupportedExtension => .protocol
  | unsupportedBinding _ | bindingDowngrade | bindingUnavailable _ | bindingMismatch =>
    .channelBinding
  | unknownUser | nonceMismatch | wrongProof | notAuthorized .. | unprovenServer | rejected _ =>
    .authentication
  | outOfSequence _ => .state
  | unsupportedAlgorithm _ | fewIterations .. => .configuration

/-- Whether someone in between may have stripped the channel binding. -/
def suggestsDowngrade : Error → Bool
  | bindingMismatch | bindingDowngrade => true
  | _ => false

/-- What the client is told. Every failure to authenticate is the same to it. -/
def refusal : Error → Refusal
  | malformed _ | outOfSequence _ => .invalidEncoding
  | unsupportedExtension => .extensionsNotSupported
  | unsupportedBinding _ => .unsupportedBindingType
  | _ => .otherError

end Error

/-! ## Checks -/

/-- Passes where the condition holds. -/
def ensure (condition : Prop) [Decidable condition] (error : Error) : Except Error Unit :=
  if condition then .ok () else .error error

/-- Passes a value on. -/
def expect {α : Type} (value : Option α) (error : Error) : Except Error α :=
  match value with
  | some a => .ok a
  | none => .error error

/-- A check passes exactly where its condition holds. -/
@[simp] theorem ensure_eq_ok_iff {condition : Prop} [Decidable condition] {error : Error} {u : Unit} :
    ensure condition error = .ok u ↔ condition := by
  unfold ensure
  split <;> simp_all

/-- A value that is expected passes exactly where it is there. -/
@[simp] theorem expect_eq_ok_iff {α : Type} {value : Option α} {error : Error} {a : α} :
    expect value error = .ok a ↔ value = some a := by
  cases value <;> simp [expect]

/-- A step that has passed leaves what follows it. -/
theorem bind_of_ok {α β : Type} {x : Except Error α} {f : α → Except Error β} {a : α}
    (passed : x = .ok a) : x >>= f = f a := by
  rw [passed]
  rfl

/-- A step that has failed ends all that follows it, with its own error. -/
theorem bind_of_error {α β : Type} {x : Except Error α} {f : α → Except Error β} {error : Error}
    (failed : x = .error error) : x >>= f = .error error := by
  rw [failed]
  rfl

/-- Steps one after another pass where each passes on what the one before it passed. -/
theorem bind_eq_ok_iff {α β : Type} {x : Except Error α} {f : α → Except Error β} {b : β} :
    x >>= f = .ok b ↔ ∃ a, x = .ok a ∧ f a = .ok b := by
  cases x <;> simp [bind, Except.bind]

/-- Changing what a step passes leaves its errors. -/
theorem map_eq_error_iff {α β : Type} {x : Except Error α} {f : α → β} {error : Error} :
    x.map f = .error error ↔ x = .error error := by
  cases x <;> simp [Except.map]

/-- Changing the errors of a step leaves what it passes. -/
theorem mapError_eq_ok_iff {α : Type} {x : Except Error α} {f : Error → Error} {a : α} :
    x.mapError f = .ok a ↔ x = .ok a := by
  cases x with
  | error => exact iff_of_false nofun nofun
  | ok => exact Iff.rfl

/-- Whatever a step fails with is of one kind. -/
def FailsOnlyAs {α : Type} (kind : Error → Prop) (x : Except Error α) : Prop :=
  ∀ error, x = .error error → kind error

section FailsOnlyAs

variable {α β : Type} {kind : Error → Prop} {error : Error}

/-- A step that passes fails in no way. -/
theorem failsOnlyAs_ok (a : α) : FailsOnlyAs kind (.ok a) := nofun

/-- A step that fails does so in its one way. -/
theorem failsOnlyAs_error (h : kind error) : FailsOnlyAs kind (.error error : Except Error α) := by
  rintro _ ⟨⟩
  exact h

/-- A check fails only with its own error. -/
theorem failsOnlyAs_ensure {condition : Prop} [Decidable condition] (h : kind error) :
    FailsOnlyAs kind (ensure condition error) := by
  intro found failed
  unfold ensure at failed
  split at failed
  · contradiction
  · cases failed
    exact h

/-- A missing value is reported only by its own error. -/
theorem failsOnlyAs_expect {value : Option α} (h : kind error) :
    FailsOnlyAs kind (expect value error) := by
  intro found failed
  cases value with
  | none =>
    cases failed
    exact h
  | some => contradiction

/-- Where every changed error is of the kind, it does not matter what the step fails with. -/
theorem failsOnlyAs_mapError {x : Except Error α} {f : Error → Error} (h : ∀ error, kind (f error)) :
    FailsOnlyAs kind (x.mapError f) := by
  intro found failed
  cases x with
  | error =>
    cases failed
    exact h _
  | ok => contradiction

/-- Steps one after another fail only as each of them does. -/
theorem FailsOnlyAs.bind {x : Except Error α} {f : α → Except Error β} (first : FailsOnlyAs kind x)
    (rest : ∀ a, FailsOnlyAs kind (f a)) : FailsOnlyAs kind (x >>= f) := by
  cases x with
  | error error =>
    intro found failed
    cases failed
    exact first error rfl
  | ok a => exact rest a

end FailsOnlyAs

end Scram
