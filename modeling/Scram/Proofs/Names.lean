import Scram.Proofs.Client.Steps
import Scram.Proofs.Server.Collaborators

/-!
# Names on their way to the server

The names of a client may be any texts: they may have commas and equals signs in them, look like
attributes of the message, or like escapes. Whatever they are, a server that is sent the client's
first message takes them as they were meant or refuses them (`names_arrive_intact`). So no name makes
the server look anyone else up, or ask whether anyone else may act as someone else.

That goes for the names of a client's own message. What someone in between may do to the message is
not said here.
-/

namespace Scram.Client

open Server

/-- **A client's names arrive as they are, or not at all.** Where both names can stand in a message,
the message reads as the client's own fields and has no extensions. Where the identity to act as
cannot, the message is refused for it, and where only the user's name cannot, for that. In all cases
and whatever is done to the server later, credentials are looked up of no one else than the client's
user, and the authorizer is asked about no one else, acting as no other identity than the client's. -/
theorem names_arrive_intact (c : Client) {s : Server} (fresh : s.state = .awaitingFirst) :
    let opening := utf8 c.first.2
    ((∀ name ∈ c.authzid, SaslName.Usable name) → SaslName.Usable c.authcid →
      ClientFirst.ofOctets opening = .ok
        { header := c.header
          flag := c.kind.flag
          authzid := c.authzid
          bare := c.bare
          mandatoryExtension := none
          username := c.authcid
          nonce := c.nonce.text
          extensions := none }) ∧
    (∀ name ∈ c.authzid, ¬SaslName.Usable name →
      (s.receive opening).result = .error (.invalid .authzid)) ∧
    ((∀ name ∈ c.authzid, SaslName.Usable name) → ¬SaslName.Usable c.authcid →
      (s.receive opening).result = .error (.invalid .authcid)) ∧
    ∀ later, (s.questions (.message opening :: later)).Sublist
      [.askedBinding c.kind, .lookedUp c.authcid,
        .askedAuthorization c.authcid (c.authzid.getD c.authcid)] := by
  intro opening
  refine ⟨?_, ?_, ?_, ?_⟩
  · intro authzid authcid
    exact ofOctets_first ⟨authcid, authzid⟩
  · intro name given unusable
    exact receive_of_unread fresh (ofOctets_first_of_unusable_authzid given unusable)
  · intro authzid unusable
    exact receive_of_unread fresh (ofOctets_first_of_unusable_authcid authzid unusable)
  · intro later
    rcases c.ofOctets_first_cases with parsed | ⟨error, unread⟩
    · exact questions_of_opening fresh parsed (BindingKind.ofFlag_flag c.kind) later
    · rw [questions_of_unread_opening fresh unread]
      exact List.nil_sublist _

/-- A user whose name goes on like a message and has an escape in it, who acts as someone whose name
looks like a username. -/
theorem names_arrive_intact_of_lookalike_attributes :
    let c := Client.start .sha1 "user=2C,r=nonce,n=admin" "pencil" (some ",n=admin")
      ⟨"client", by decide⟩
    let s := Server.start ⟨.sha1, false⟩ (fun _ => none) "server"
    let opening := utf8 c.first.2
    s.state = .awaitingFirst ∧
      ClientFirst.ofOctets opening = .ok
        { header := "n,a==2Cn=3Dadmin,"
          flag := .unsupported
          authzid := some ",n=admin"
          bare := "n=user=3D2C=2Cr=3Dnonce=2Cn=3Dadmin,r=client"
          mandatoryExtension := none
          username := "user=2C,r=nonce,n=admin"
          nonce := "client"
          extensions := none } ∧
      (s.questions [.message opening]).Sublist
        [.askedBinding .unsupported, .lookedUp "user=2C,r=nonce,n=admin",
          .askedAuthorization "user=2C,r=nonce,n=admin" ",n=admin"] := by
  intro c s opening
  obtain ⟨read, -, -, asked⟩ := c.names_arrive_intact (s := s) rfl
  have header : c.header = "n,a==2Cn=3Dadmin," := by decide
  have bare : c.bare = "n=user=3D2C=2Cr=3Dnonce=2Cn=3Dadmin,r=client" := by decide
  refine ⟨rfl, ?_, asked []⟩
  rw [← header, ← bare]
  exact read (by decide) (by decide)

end Scram.Client
